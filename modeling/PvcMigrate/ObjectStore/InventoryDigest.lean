import Mathlib.Data.List.Sort
import Mathlib.Logic.Embedding.Basic
import PvcMigrate.Lib.Json
import PvcMigrate.ObjectStore.RecoveryPoint

/-!
# Inventories of any listing

`Inventory` (`objectstore/s3.go`) asks the store for one page after the other.  Here the store is
any store: it answers as it likes, in any order, with pages of any size.  What `Inventory` returns
depends only on the objects it was told about, and its digest, the hash of one JSON record per
object, tells one set of objects from every other.
-/

namespace PvcMigrate

namespace ObjectStore

open SlashPath Check

/-! ## The loop over the answers of a store -/

/-- The loop of `Inventory` over the answers of a store.  The result is `none` if the loop asks for
more pages than there are answers. -/
def listPages (below : Text) : List ListObjectsV2Output → List Text → List InventoryEntry →
    Option (Except Error (List InventoryEntry))
  | [], _, _ => none
  | output :: outputs, seenTokens, entries =>
    match pageEntries below output.contents with
    | .error e => some (.error e)
    | .ok page =>
      if output.isTruncated = false then some (.ok (entries ++ page))
      else match output.nextContinuationToken with
        | none => some (.error
          (inventoryError "truncated object listing has no continuation token"))
        | some nextToken =>
          if nextToken = [] then
            some (.error (inventoryError "truncated object listing has no continuation token"))
          else if nextToken ∈ seenTokens then
            some (.error (inventoryError "object listing repeated a continuation token"))
          else listPages below outputs (nextToken :: seenTokens) (entries ++ page)

/-- `(*Store).Inventory` of a store that answers as given. -/
def inventoryFrom (services : Services) (below : Text) (outputs : List ListObjectsV2Output) :
    Option (Except Error Inventory) :=
  (listPages below outputs [] []).map (· >>= summarize services)

/-- The answers of the server that lists a bucket in the order of its keys. -/
def serverPages (services : Services) (bucket : Bucket) (below : Text) :
    Nat → Option Text → List ListObjectsV2Output
  | 0, _ => []
  | fuel + 1, token =>
    let output := listObjectsV2 services.pageSize bucket below token
    output :: serverPages services bucket below fuel output.nextContinuationToken

variable {services : Services} {below : Text} {outputs : List ListObjectsV2Output}
  {seen : List Text} {es : List InventoryEntry} {contents : List (Text × Object)}

/-- On the answers of that server the loop is the one of `inventory`. -/
theorem inventoryEntries_eq_listPages {bucket : Bucket} (fuel : ℕ) :
    ∀ (seen : List Text) (token : Option Text) (entries : List InventoryEntry),
      inventoryEntries services bucket below fuel seen token entries =
        (listPages below (serverPages services bucket below fuel token) seen entries).getD
          (.error (inventoryError "object listing did not end")) := by
  induction fuel with
  | zero => intros; rfl
  | succ fuel ih =>
    intro seen token entries
    simp only [inventoryEntries, serverPages, listPages]
    generalize listObjectsV2 services.pageSize bucket below token = output
    cases pageEntries below output.contents with
    | error e => rfl
    | ok page =>
      by_cases hlast : output.isTruncated = false
      · simp [hlast]
      · simp only [hlast]
        cases output.nextContinuationToken with
        | none => rfl
        | some nextToken =>
          by_cases hempty : nextToken = []
          · simp [hempty, refuse]
            rfl
          · by_cases hseen : nextToken ∈ seen
            · simp [hempty, hseen, refuse]
              rfl
            · simp [hempty, hseen, refuse, ← ih]
              rfl

/-- The store lists the contents in pages: each one but the last comes with a new token. -/
inductive Paged : List Text → List ListObjectsV2Output → List (Text × Object) → Prop
  | last {seen : List Text} {o : ListObjectsV2Output} (truncated : o.isTruncated = false) :
      Paged seen [o] o.contents
  | page {seen : List Text} {o : ListObjectsV2Output} {outputs : List ListObjectsV2Output}
      {contents : List (Text × Object)} {token : Text} (truncated : o.isTruncated = true)
      (next : o.nextContinuationToken = some token) (nonempty : token ≠ []) (fresh : token ∉ seen)
      (rest : Paged (token :: seen) outputs contents) :
      Paged seen (o :: outputs) (o.contents ++ contents)

/-- The loop ends with the last page, and has the entries of all pages. -/
theorem listPages_of_paged (h : Paged seen outputs contents) :
    ∀ entries, listPages below outputs seen entries = some (do
      let rest ← pageEntries below contents
      return entries ++ rest) := by
  induction h with
  | @last seen o truncated =>
    intro entries
    simp only [listPages, truncated]
    cases pageEntries below o.contents <;> rfl
  | @page seen o outputs contents token truncated next nonempty fresh rest ih =>
    intro entries
    simp only [listPages, truncated, next, nonempty, fresh, ih, pageEntries_append,
      Bool.true_eq_false, if_false]
    cases pageEntries below o.contents with
    | error e => rfl
    | ok page =>
      cases pageEntries below contents with
      | error e => rfl
      | ok others => exact congrArg (some ∘ Except.ok) (List.append_assoc entries page others)

/-- A token that is missing, empty or not new ends the loop with an error. -/
theorem listPages_error (htruncated : ∀ o ∈ outputs, o.isTruncated = true) :
    ∀ (seen : List Text) (entries : List InventoryEntry),
      ¬ ((∀ o ∈ outputs, ∃ t ≠ [], o.nextContinuationToken = some t ∧ t ∉ seen) ∧
        (outputs.map (·.nextContinuationToken)).Nodup) →
      ∃ e, listPages below outputs seen entries = some (.error e) := by
  induction outputs with
  | nil =>
    intro seen entries hbad
    simp at hbad
  | cons o outputs ih =>
    intro seen entries hbad
    simp only [List.forall_mem_cons] at htruncated
    simp only [listPages, htruncated.1, Bool.true_eq_false, if_false]
    cases pageEntries below o.contents with
    | error e => exact ⟨e, rfl⟩
    | ok page =>
      cases htoken : o.nextContinuationToken with
      | none => exact ⟨_, rfl⟩
      | some t =>
        by_cases hempty : t = []
        · exact ⟨_, by simp only [hempty, if_true]; rfl⟩
        · by_cases hseen : t ∈ seen
          · exact ⟨_, by simp only [hempty, hseen, if_true, if_false]; rfl⟩
          · simp only [hempty, hseen, if_false]
            refine ih htruncated.2 _ _ fun hgood => hbad ⟨?_, ?_⟩
            · simp only [List.forall_mem_cons]
              refine ⟨⟨t, hempty, htoken, hseen⟩, fun o' ho' => ?_⟩
              obtain ⟨t', hne, htoken', hfresh⟩ := hgood.1 o' ho'
              exact ⟨t', hne, htoken', fun hmem => hfresh (List.mem_cons_of_mem _ hmem)⟩
            · refine List.nodup_cons.mpr ⟨fun hmem => ?_, hgood.2⟩
              obtain ⟨o', ho', heq⟩ := List.mem_map.mp hmem
              obtain ⟨t', _, htoken', hfresh⟩ := hgood.1 o' ho'
              simp only [htoken, htoken', Option.some.injEq] at heq
              subst heq
              exact hfresh List.mem_cons_self

/-! ## The entries and their summary -/

/-- The object is in the directory. -/
def isBelow (below : Text) (x : Text × Object) : Bool := below.isPrefixOf x.1 && x.1 ≠ below

/-- What is recorded of an object. -/
def entryOf (below : Text) (x : Text × Object) : InventoryEntry :=
  ⟨x.1.drop below.length, x.2.size, x.2.etag.trimSpace⟩

/-- The object has an ETag, and its size is not negative. -/
abbrev Countable (x : Text × Object) : Prop := x.2.etag.trimSpace ≠ [] ∧ 0 ≤ x.2.size

theorem pageEntries_eq_ok : pageEntries below contents = .ok es ↔
    (∀ x ∈ contents.filter (isBelow below), Countable x) ∧
      es = (contents.filter (isBelow below)).map (entryOf below) := by
  induction contents generalizing es with
  | nil => simp [pageEntries, pure, Except.pure, eq_comm]
  | cons x contents ih =>
    obtain ⟨key, object⟩ := x
    by_cases h : isBelow below (key, object) = true
    · have hskip : ¬ (below.isPrefixOf key = false ∨ key = below) := by
        simpa [isBelow, not_or] using h
      rw [pageEntries, if_neg hskip, List.filter_cons_of_pos h, andThen_eq_ok, refuse_eq_ok,
        andThen_eq_ok, refuse_eq_ok, Int64.not_lt, bind_eq_ok]
      simp only [ih, pure, Except.pure, Except.ok.injEq, List.forall_mem_cons, List.map_cons]
      constructor
      · rintro ⟨hetag, hsize, rest, ⟨hrest, rfl⟩, rfl⟩
        exact ⟨⟨⟨hetag, hsize⟩, hrest⟩, rfl⟩
      · rintro ⟨⟨⟨hetag, hsize⟩, hrest⟩, rfl⟩
        exact ⟨hetag, hsize, _, ⟨hrest, rfl⟩, rfl⟩
    · have hskip : below.isPrefixOf key = false ∨ key = below := by
        by_contra hnot
        exact h (by simpa [isBelow, not_or] using hnot)
      rw [pageEntries, if_pos hskip, List.filter_cons_of_neg h]
      exact ih

/-- The bytes of some entries. -/
def totalSize (es : List InventoryEntry) : Int := (es.map (·.size.toInt)).sum

theorem addSizes_eq_ok (hes : ∀ e ∈ es, 0 ≤ e.size) :
    ∀ {total t : Int64}, 0 ≤ total → (addSizes total es = .ok t ↔
      total.toInt + totalSize es < 2 ^ 63 ∧ t = Int64.ofInt (total.toInt + totalSize es)) := by
  induction es with
  | nil =>
    intro total t _
    have := total.toInt_lt
    simp [addSizes, totalSize, pure, Except.pure, eq_comm]
    omega
  | cons e es ih =>
    intro total t htotal
    simp only [List.forall_mem_cons] at hes
    have hnonneg : 0 ≤ totalSize es := by
      refine List.sum_nonneg fun n hn => ?_
      obtain ⟨e', he', rfl⟩ := List.mem_map.mp hn
      simpa [Int64.le_iff_toInt_le] using hes.2 e' he'
    have hsum : totalSize (e :: es) = e.size.toInt + totalSize es := by simp [totalSize]
    have hadd := Int64.toInt_add total e.size
    have hlt := total.toInt_lt
    have hlt' := e.size.toInt_lt
    have hle : 0 ≤ total.toInt := by simpa [Int64.le_iff_toInt_le] using htotal
    have hle' : 0 ≤ e.size.toInt := by simpa [Int64.le_iff_toInt_le] using hes.1
    rw [addSizes, andThen_eq_ok, refuse_eq_ok, hsum]
    by_cases hfits : total.toInt + e.size.toInt < 2 ^ 63
    · have hval : (total + e.size).toInt = total.toInt + e.size.toInt := by
        rw [hadd, Int.bmod_def]
        omega
      have hpos : 0 ≤ total + e.size := by
        rw [Int64.le_iff_toInt_le, hval]
        exact Int.add_nonneg hle hle'
      rw [ih hes.2 hpos, hval, Int64.not_lt, ← add_assoc]
      exact and_iff_right hpos
    · -- the sum has wrapped around once
      have hval : (total + e.size).toInt < 0 := by
        rw [hadd, Int.bmod_def]
        omega
      refine iff_of_false (fun h => h.1 ?_) fun h => ?_
      · simpa [Int64.lt_iff_toInt_lt] using hval
      · omega

/-- The entries in the order of their keys. -/
def sortEntries (es : List InventoryEntry) : List InventoryEntry :=
  es.insertionSort fun x y => x.key ≤ y.key

theorem sortEntries_perm (es : List InventoryEntry) : (sortEntries es).Perm es :=
  List.perm_insertionSort _ _

theorem sortEntries_eq_of_perm {es' : List InventoryEntry} (hnodup : (es.map (·.key)).Nodup)
    (h : es.Perm es') : sortEntries es = sortEntries es' := by
  have hperm : (sortEntries es).Perm (sortEntries es') :=
    (sortEntries_perm es).trans (h.trans (sortEntries_perm es').symm)
  have hsorted (l : List InventoryEntry) : (sortEntries l).Pairwise fun x y => x.key ≤ y.key :=
    haveI : Std.Total fun x y : InventoryEntry => x.key ≤ y.key := ⟨fun x y => le_total x.key y.key⟩
    haveI : IsTrans InventoryEntry fun x y => x.key ≤ y.key := ⟨fun _ _ _ => le_trans⟩
    List.pairwise_insertionSort _ _
  refine hperm.eq_of_pairwise (fun x y hx hy hxy hyx => ?_) (hsorted es) (hsorted es')
  have hx' := (sortEntries_perm es).subset hx
  have hy' := h.symm.subset ((sortEntries_perm es').subset hy)
  exact List.inj_on_of_nodup_map hnodup hx' hy' (le_antisymm hxy hyx)

/-- The inventory of entries whose bytes can be counted. -/
def countEntries (services : Services) (es : List InventoryEntry) : Inventory :=
  ⟨Int64.ofNat es.length, Int64.ofInt (totalSize es), services.sha256 (sortEntries es)⟩

theorem countEntries_eq_of_perm {es' : List InventoryEntry} (hnodup : (es.map (·.key)).Nodup)
    (h : es.Perm es') : countEntries services es = countEntries services es' := by
  have htotal : totalSize es = totalSize es' := (h.map _).sum_eq
  rw [countEntries, countEntries, h.length_eq, htotal, sortEntries_eq_of_perm hnodup h]

theorem summarize_eq_ok {inv : Inventory} (hes : ∀ e ∈ es, 0 ≤ e.size) :
    summarize services es = .ok inv ↔ totalSize es < 2 ^ 63 ∧ inv = countEntries services es := by
  have hperm := sortEntries_perm es
  have htotal : totalSize (sortEntries es) = totalSize es := (hperm.map _).sum_eq
  have hadd {t : Int64} := addSizes_eq_ok (t := t) (fun e he => hes e (hperm.subset he))
    (Int64.le_refl 0)
  simp only [htotal, Int64.toInt_zero, zero_add] at hadd
  simp only [summarize, bind_eq_ok, ← sortEntries.eq_def, hadd, hperm.length_eq, pure, Except.pure,
    Except.ok.injEq, countEntries]
  constructor
  · rintro ⟨t, ⟨hfits, rfl⟩, rfl⟩
    exact ⟨hfits, rfl⟩
  · rintro ⟨hfits, rfl⟩
    exact ⟨_, ⟨hfits, rfl⟩, rfl⟩

/-! ## The digest -/

/-- A record with the words in front of its fields and behind them. -/
def record (key size etag stop : Text) (e : InventoryEntry) : Text :=
  key ++ (Json.string e.key ++ (size ++ (Json.decimal e.size.toInt ++
    ',' :: (etag ++ (Json.string e.etag ++ stop)))))

theorem selfDelimiting_record (key size etag stop : Text) :
    SelfDelimiting (record key size etag stop) := by
  intro a b x y h
  simp only [record, List.append_assoc, List.cons_append] at h
  obtain ⟨hkey, h⟩ := Json.selfDelimiting_string (List.append_cancel_left h)
  obtain ⟨hsize, h⟩ := Json.decimal_append_inj (List.append_cancel_left h)
  obtain ⟨hetag, h⟩ := Json.selfDelimiting_string (List.append_cancel_left h)
  refine ⟨?_, List.append_cancel_left h⟩
  cases a
  cases b
  simp_all [Int64.toInt_inj]

/-- The record of an entry, as `json.Encoder` writes it. -/
def encodeEntry : InventoryEntry → Text :=
  record "\x7b\"key\":".toList ",\"size\":".toList "\"etag\":".toList "\x7d\n".toList

/-- The services with a hash over the records of the entries. -/
def Services.hashing (services : Services) (hash : Text ↪ Text) : Services :=
  { services with sha256 := fun es => hash (es.flatMap encodeEntry) }

theorem sha256_hashing_inj {hash : Text ↪ Text} {es' : List InventoryEntry} :
    (services.hashing hash).sha256 es = (services.hashing hash).sha256 es' ↔ es = es' := by
  have hne (e : InventoryEntry) : encodeEntry e ≠ [] := by
    simp [encodeEntry, record]
  exact hash.injective.eq_iff.trans
    ((selfDelimiting_record _ _ _ _).flatMap_injective hne).eq_iff

/-! ## Inventories of a set of objects -/

/-- Objects with distinct keys. -/
structure ObjectSet where
  objects : List (Text × Object)
  nodup : (objects.map (·.1)).Nodup

/-- What is recorded of the objects. -/
def ObjectSet.entries (set : ObjectSet) (below : Text) : List InventoryEntry :=
  set.objects.map (entryOf below)

/-- The store lists the objects of a directory, in some pages and some order, and perhaps others
that are not in the directory. -/
def Lists (below : Text) (set : ObjectSet) (outputs : List ListObjectsV2Output) : Prop :=
  ∃ contents, Paged [] outputs contents ∧ (contents.filter (isBelow below)).Perm set.objects

/-- The inventory of some objects, if each can be counted and their bytes fit into an `int64`. -/
def inventoryOf (services : Services) (below : Text) (set : ObjectSet) : Option Inventory :=
  if (∀ x ∈ set.objects, Countable x) ∧ totalSize (set.entries below) < 2 ^ 63 then
    some (countEntries services (set.entries below))
  else none

variable {set : ObjectSet}

/-- Relative keys are distinct, too. -/
theorem Lists.nodup (h : Lists below set outputs) : ((set.entries below).map (·.key)).Nodup := by
  obtain ⟨contents, -, hperm⟩ := h
  have hbelow {x : Text × Object} (hx : x ∈ set.objects) : below ++
      x.1.drop below.length = x.1 := by
    have := (List.mem_filter.mp (hperm.symm.subset hx)).2
    simp only [isBelow, Bool.and_eq_true, List.isPrefixOf_iff_prefix] at this
    exact List.prefix_iff_eq_append.mp this.1
  simp only [ObjectSet.entries, List.map_map]
  refine set.nodup.of_map.map_on fun x hx y hy heq => ?_
  have hkey : x.1 = y.1 := by
    rw [← hbelow hx, ← hbelow hy]
    exact congrArg _ heq
  exact List.inj_on_of_nodup_map set.nodup hx hy hkey

/-- The call ends, and its result is the inventory of the set. -/
theorem Lists.inventoryFrom (services : Services) (h : Lists below set outputs) :
    ∃ answer, inventoryFrom services below outputs = some answer ∧
      answer.toOption = inventoryOf services below set := by
  have hnodup := h.nodup
  obtain ⟨contents, hpaged, hperm⟩ := h
  have hentries := hperm.map (entryOf below)
  refine ⟨pageEntries below contents >>= summarize services, ?_, ?_⟩
  · rw [ObjectStore.inventoryFrom, listPages_of_paged hpaged]
    cases pageEntries below contents <;> rfl
  have hcount : countEntries services _ = countEntries services (set.entries below) :=
    (countEntries_eq_of_perm hnodup hentries.symm).symm
  have htotal : totalSize _ = totalSize (set.entries below) := (hentries.map _).sum_eq
  have hok (inv : Inventory) : (pageEntries below contents >>= summarize services) = .ok inv ↔
      ((∀ x ∈ set.objects, Countable x) ∧ totalSize (set.entries below) < 2 ^ 63) ∧
        inv = countEntries services (set.entries below) := by
    simp only [bind_eq_ok, pageEntries_eq_ok, hperm.mem_iff, and_assoc, exists_eq_left,
      exists_and_left]
    refine and_congr_right fun hall => ?_
    rw [summarize_eq_ok, htotal, hcount]
    intro e he
    obtain ⟨x, hx, rfl⟩ := List.mem_map.mp (hentries.subset he)
    exact (hall x hx).2
  unfold inventoryOf
  split
  · rename_i hcountable
    rw [(hok _).mpr ⟨hcountable, rfl⟩]
    rfl
  · rename_i hcountable
    cases hanswer : pageEntries below contents >>= summarize services with
    | error e => rfl
    | ok inv => exact absurd ((hok inv).mp hanswer).1 hcountable

/-- **What an inventory depends on.**  However a set of objects is listed, its inventory is the
same, and there is none if its bytes do not fit into an `int64`.  Two inventories have the same
digest if the same keys, sizes and ETags were listed, and only then.  A store whose pages all have a
successor and that leaves out a token or repeats one gets an error. -/
theorem inventory_of_objects (services : Services) (hash : Text ↪ Text) :
    (∀ below set outputs, Lists below set outputs →
      ∃ answer, inventoryFrom (services.hashing hash) below outputs = some answer ∧
        answer.toOption = inventoryOf (services.hashing hash) below set) ∧
    (∀ below below' set set' outputs outputs' inv inv', Lists below set outputs →
      Lists below' set' outputs' →
      inventoryFrom (services.hashing hash) below outputs = some (.ok inv) →
      inventoryFrom (services.hashing hash) below' outputs' = some (.ok inv') →
      (inv.sha256 = inv'.sha256 ↔ ∀ e, e ∈ set.entries below ↔ e ∈ set'.entries below')) ∧
    ∀ below outputs, (∀ o ∈ outputs, o.isTruncated = true) →
      ¬ ((∀ o ∈ outputs, ∃ t ≠ [], o.nextContinuationToken = some t) ∧
        (outputs.map (·.nextContinuationToken)).Nodup) →
      ∃ e, inventoryFrom (services.hashing hash) below outputs = some (.error e) := by
  refine ⟨fun below set outputs h => h.inventoryFrom _, ?_, ?_⟩
  · intro below below' set set' outputs outputs' inv inv' hlists hlists' h h'
    have hdigest {below : Text} {set : ObjectSet} {outputs : List ListObjectsV2Output}
        {inv : Inventory} (hlists : Lists below set outputs)
        (h : inventoryFrom (services.hashing hash) below outputs = some (.ok inv)) :
        inv.sha256 = (services.hashing hash).sha256 (sortEntries (set.entries below)) := by
      obtain ⟨answer, hanswer, hof⟩ := hlists.inventoryFrom (services.hashing hash)
      rw [h, Option.some.injEq] at hanswer
      rw [← hanswer, inventoryOf] at hof
      split at hof
      · cases hof
        rfl
      · cases hof
    rw [hdigest hlists h, hdigest hlists' h', sha256_hashing_inj]
    constructor
    · intro heq e
      rw [← (sortEntries_perm _).mem_iff, heq, (sortEntries_perm _).mem_iff]
    · intro hmem
      exact sortEntries_eq_of_perm hlists.nodup ((List.perm_ext_iff_of_nodup hlists.nodup.of_map
        hlists'.nodup.of_map).mpr hmem)
  · intro below outputs htruncated hbad
    obtain ⟨e, he⟩ : ∃ e, listPages below outputs [] [] = some (.error e) :=
      listPages_error htruncated [] [] (by simpa using hbad)
    exact ⟨e, by rw [inventoryFrom, he]; rfl⟩

/-- Two pages, neither sorted nor free of the directory itself. -/
example : Lists "d/".toList
    ⟨[("d/a".toList, emptyObject), ("d/b".toList, emptyObject)], by decide⟩
    [⟨[("d/b".toList, emptyObject)], true, some ['t']⟩,
      ⟨[("d/".toList, emptyObject), ("d/a".toList, emptyObject)], false, none⟩] :=
  ⟨_, .page rfl rfl (by decide) (by decide) (.last rfl), .swap _ _ []⟩

end ObjectStore

end PvcMigrate

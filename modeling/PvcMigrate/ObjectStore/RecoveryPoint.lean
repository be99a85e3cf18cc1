import Mathlib.Data.Char
import Mathlib.Data.List.Lex
import Mathlib.Data.List.Sort
import PvcMigrate.Lib.KeyedStore
import PvcMigrate.ObjectStore.Config

/-!
# What is read of a recovery point

An S3 bucket holds objects under keys, and several recovery points may share it.  Three things are
read of one (`objectstore/s3.go`): the inventory of its data (how many objects there are below its
data prefix, how many bytes, and a digest), its lock and its completion manifest.

The server is one that answers: a listing comes in pages of some size, in the order of the keys, and
a continuation token is the last key of its page.  The JSON decoders, the quantity parser and
SHA-256 over the encoded entries are parameters.
-/

namespace PvcMigrate

namespace ObjectStore

open SlashPath Check

/-! ## The bucket -/

/-- An object: its content, and what a listing says about it. -/
structure Object where
  body : List UInt8
  size : Int64
  etag : Text

/-- The objects of a bucket under their keys. -/
abbrev Bucket := KeyedStore Text Object

/-- The buckets of a server under their names. -/
abbrev Buckets := Text → Bucket

/-- `s3.ListObjectsV2Output`. -/
structure ListObjectsV2Output where
  contents : List (Text × Object)
  isTruncated : Bool
  nextContinuationToken : Option Text

def afterToken (token : Option Text) (key : Text) : Bool := token.all (· < key)

/-- The objects a listing has still to return. -/
def remaining (bucket : Bucket) (below : Text) (token : Option Text) : List (Text × Object) :=
  bucket.select fun key => below.isPrefixOf key && afterToken token key

/-- `ListObjectsV2` of a server with the given page size. -/
def listObjectsV2 (pageSize : Nat) (bucket : Bucket) (below : Text) (token : Option Text) :
    ListObjectsV2Output :=
  let matching := remaining bucket below token
  let page := matching.take pageSize
  { contents := page
    isTruncated := pageSize < matching.length
    nextContinuationToken := if pageSize < matching.length then page.getLast?.map (·.1) else none }

/-! ## Inventories -/

/-- `objectstore.inventoryEntry`. -/
structure InventoryEntry where
  key : Text
  size : Int64
  etag : Text
  deriving DecidableEq

/-- `objectstore.Inventory`. -/
structure Inventory where
  objectCount : Int64
  totalBytes : Int64
  sha256 : Text
  deriving DecidableEq

/-- `objectstore.Lock`. -/
structure Lock where
  holder : Text
  expiresAt : Int
  deriving DecidableEq

/-- `objectstore.Manifest`; `createdAt` counts from the zero time. -/
structure Manifest where
  version : Int
  createdAt : Int
  bucket : Text
  prefixPath : Text
  name : Text
  sessionID : Text
  path : Text
  sourceNamespace : Text
  sourcePVC : Text
  sourcePVCUID : Text
  sourcePV : Text
  sourcePVUID : Text
  capacity : Text
  volumeMode : Text
  consistency : Text
  compression : Text
  objectCount : Int64
  totalBytes : Int64
  inventorySHA256 : Text

/-- The server's page size and the code that is not the repository's own. -/
structure Services where
  pageSize : Nat
  pageSize_pos : 0 < pageSize
  parseURL : Text → Option URL
  /-- The SHA-256 in hex of the entries, encoded one after the other. -/
  sha256 : List InventoryEntry → Text
  unmarshalLock : List UInt8 → Except Text Lock
  unmarshalManifest : List UInt8 → Except Text Manifest
  /-- The sign of the quantity a text stands for. -/
  quantitySign : Text → Except Text Int

def inventoryError (message : String) : Error := ⟨.precondition, "S3 inventory", message⟩

def pageEntries (below : Text) : List (Text × Object) → Except Error (List InventoryEntry)
  | [] => pure []
  | (key, object) :: rest =>
    if below.isPrefixOf key = false ∨ key = below then pageEntries below rest
    else do
      let etag := object.etag.trimSpace
      refuse (etag = []) (inventoryError s!"object {String.ofList key} has no ETag")
      refuse (object.size < 0) (inventoryError s!"object {String.ofList key} has a negative size")
      let entries ← pageEntries below rest
      return ⟨key.drop below.length, object.size, etag⟩ :: entries

/-- The loop of `Inventory` over the pages.  The fuel runs out in no run: `inventoryEntries_eq`. -/
def inventoryEntries (services : Services) (bucket : Bucket) (below : Text) :
    Nat → List Text → Option Text → List InventoryEntry → Except Error (List InventoryEntry)
  | 0, _, _, _ => .error (inventoryError "object listing did not end")
  | fuel + 1, seenTokens, continuationToken, entries => do
    let output := listObjectsV2 services.pageSize bucket below continuationToken
    let page ← pageEntries below output.contents
    if output.isTruncated = false then pure (entries ++ page)
    else match output.nextContinuationToken with
      | none => .error (inventoryError "truncated object listing has no continuation token")
      | some nextToken => do
        refuse (nextToken = [])
          (inventoryError "truncated object listing has no continuation token")
        refuse (nextToken ∈ seenTokens)
          (inventoryError "object listing repeated a continuation token")
        inventoryEntries services bucket below fuel (nextToken :: seenTokens) (some nextToken)
          (entries ++ page)

/-- The sum of the sizes, in 64 bits; an overflow shows as a negative sum. -/
def addSizes : Int64 → List InventoryEntry → Except Error Int64
  | total, [] => pure total
  | total, entry :: rest => do
    refuse (total + entry.size < 0) (inventoryError "backup object size total overflowed")
    addSizes (total + entry.size) rest

variable (services : Services)

def summarize (entries : List InventoryEntry) : Except Error Inventory := do
  let entries := entries.insertionSort fun x y => x.key ≤ y.key
  let totalBytes ← addSizes 0 entries
  return { objectCount := Int64.ofNat entries.length
           totalBytes
           sha256 := services.sha256 entries }

/-- `(*Store).Inventory`. -/
def inventory (config : Config) (buckets : Buckets) : Except Error Inventory := do
  let bucket := buckets config.bucket
  let entries ← inventoryEntries services bucket (dataPrefix config)
    (bucket.entries.length + 1) [] none []
  summarize services entries

/-! ## Locks and manifests -/

/-- `(*Store).readLock`: the lock with its ETag, if there is one. -/
def readLock (config : Config) (buckets : Buckets) : Except Text (Option (Lock × Text)) :=
  match (buckets config.bucket).get (lockKey config) with
  | none => pure none
  | some object => do
    let lock ← services.unmarshalLock (object.body.take (64 * 1024))
    return some (lock, object.etag)

def manifestVersion : Int := 2

/-- `unicode.IsControl`. -/
def isControl (c : Char) : Bool := c.val < 0x20 || (0x7f ≤ c.val && c.val < 0xa0)

/-- `domain.VolumeRootPath`. -/
def volumeRootPath : Text := ['.']

variable (value : Text)

/-- `domain.NormalizeTransferPath`. -/
def normalizeTransferPath : Except String Text := do
  let value := value.trimSpace
  let quoted := value.quote
  if value = [] ∨ value = volumeRootPath then pure volumeRootPath
  else do
    refuse (value.byteLength > 4096) "path exceeds 4096 bytes"
    refuse (isAbs value = true) s!"path {quoted} must be relative to the PVC root"
    refuse ('\\' ∈ value) s!"path {quoted} contains a backslash; use slash-separated PVC paths"
    refuse (value.any isControl = true) "path contains a control character"
    refuse ("..".toList ∈ split value) s!"path {quoted} contains parent traversal"
    let cleaned := clean value
    refuse (cleaned = "..".toList ∨ "../".toList <+: cleaned)
      s!"path {quoted} escapes the PVC root"
    return cleaned

def validatePath : Except Error Unit :=
  if value = [] then pure ()
  else match normalizeTransferPath value with
    | .error _ => .error ⟨.validation, "PVC path", s!"path {value.quote} is invalid"⟩
    | .ok normalized =>
      refuse (normalized = volumeRootPath ∨ normalized ≠ value) ⟨.validation, "PVC path",
        "path must be stored in normalized form; use an empty path for the PVC root"⟩

def manifestError (message : String) : Error := ⟨.precondition, "S3 manifest", message⟩

/-- `hex.DecodeString` accepts the text. -/
def isHex : Bool :=
  value.length % 2 == 0 &&
    value.all fun c => ('0' ≤ c && c ≤ '9') || ('a' ≤ c && c ≤ 'f') || ('A' ≤ c && c ≤ 'F')

/-- The checks of the capacity in `validateManifest`. -/
def validateManifestCapacity (manifest : Manifest) : Except Error Unit := do
  refuse (manifest.capacity = []) (manifestError "completion manifest capacity is required")
  let sign ← (services.quantitySign manifest.capacity).mapError fun _ =>
    manifestError "parse completion manifest capacity"
  refuse (sign ≤ 0) (manifestError "completion manifest capacity must be positive")

def validateManifest (manifest : Manifest) : Except Error Unit := do
  refuse (manifest.version ≠ manifestVersion)
    (manifestError "unsupported completion manifest version")
  refuse (manifest.createdAt = 0) (manifestError "completion manifest createdAt is required")
  refuse (manifest.sourceNamespace = [] ∨ manifest.sourcePVC = [] ∨ manifest.sourcePVCUID = [])
    (manifestError "completion manifest source identity is incomplete")
  refuse (manifest.sourcePV.isEmpty ≠ manifest.sourcePVUID.isEmpty)
    (manifestError "completion manifest source PV identity is incomplete")
  validateManifestCapacity services manifest
  refuse (manifest.volumeMode = [] ∨ manifest.consistency = [] ∨ manifest.compression = [])
    (manifestError "completion manifest storage and consistency fields are required")
  refuse (manifest.volumeMode ≠ "Filesystem".toList)
    (manifestError "S3 file backup manifest must use Filesystem VolumeMode")
  refuse (manifest.objectCount < 0 ∨ manifest.totalBytes < 0)
    (manifestError "completion manifest inventory counts must be non-negative")
  refuse (manifest.inventorySHA256.byteLength ≠ 64)
    (manifestError "completion manifest inventory SHA-256 is required")
  refuse (isHex manifest.inventorySHA256 = false)
    (manifestError "decode completion manifest inventory SHA-256")
  (validatePath manifest.path).mapError fun _ =>
    manifestError "validate completion manifest path"

/-- `(*Store).Manifest`: the completion manifest, if there is one. -/
def readManifest (config : Config) (buckets : Buckets) : Except Error (Option Manifest) :=
  match (buckets config.bucket).get (manifestKey config) with
  | none => pure none
  | some object => do
    let manifest ← (services.unmarshalManifest (object.body.take (1024 * 1024))).mapError fun _ =>
      manifestError "decode completion manifest"
    refuse (manifest.version ≠ manifestVersion ∨ manifest.bucket ≠ config.bucket ∨
        manifest.prefixPath ≠ config.prefixPath ∨ manifest.name ≠ config.name)
      ⟨.conflict, "S3 manifest", "completion manifest identity is invalid"⟩
    validateManifest services manifest
    return some manifest

/-! ## Listings -/

theorem pageEntries_append (below : Text) (front back : List (Text × Object)) :
    pageEntries below (front ++ back) = (do
      let first ← pageEntries below front
      let second ← pageEntries below back
      return first ++ second) := by
  induction front with
  | nil => simp [pageEntries]
  | cons x front ih =>
    obtain ⟨key, object⟩ := x
    simp only [List.cons_append, pageEntries]
    split
    · exact ih
    · simp [ih]

theorem below_of_mem_remaining {bucket : Bucket} {below : Text} {token : Option Text}
    {x : Text × Object} (h : x ∈ remaining bucket below token) :
    below <+: x.1 ∧ afterToken token x.1 = true := by
  have hx := (List.mem_filter.mp h).2
  simp only [Bool.and_eq_true] at hx
  exact ⟨List.isPrefixOf_iff_prefix.mp hx.1, hx.2⟩

/-- A listing that goes on after one of its objects returns the objects behind it. -/
theorem remaining_after {bucket : Bucket} {below : Text} {token : Option Text}
    {front back : List (Text × Object)} {x : Text × Object}
    (h : remaining bucket below token = front ++ x :: back) :
    remaining bucket below (some x.1) = back := by
  have hx : afterToken token x.1 = true :=
    (below_of_mem_remaining (h ▸ List.mem_append_right _ List.mem_cons_self)).2
  have hfilter : remaining bucket below (some x.1) =
      (remaining bucket below token).filter fun y => x.1 < y.1 := by
    simp only [remaining, KeyedStore.select, List.filter_filter]
    refine List.filter_congr fun y _ => ?_
    by_cases hxy : x.1 < y.1
    · -- whatever comes after `x` comes after the token
      have hy : afterToken token y.1 = true := by
        cases token with
        | none => rfl
        | some t =>
          have htx : t < x.1 := by simpa [afterToken] using hx
          simpa [afterToken] using lt_trans htx hxy
      simp [afterToken, hxy] at hy ⊢
      simp [hy]
    · simp [afterToken, hxy]
  rw [hfilter, h]
  have hsorted : (remaining bucket below token).Pairwise fun x y => x.1 < y.1 :=
    KeyedStore.sorted_select _ bucket
  convert KeyedStore.filter_after (h ▸ hsorted)

/-- The loop over the pages returns the entries of the whole listing, whatever the page size. -/
theorem inventoryEntries_eq (bucket : Bucket) {below : Text} (hbelow : below ≠ []) (fuel : Nat) :
    ∀ (seen : List Text) (token : Option Text) (entries : List InventoryEntry),
      (remaining bucket below token).length < fuel →
      (∀ t ∈ seen, ∀ x ∈ remaining bucket below token, t < x.1) →
      inventoryEntries services bucket below fuel seen token entries = (do
        let rest ← pageEntries below (remaining bucket below token)
        return entries ++ rest) := by
  induction fuel with
  | zero => intro seen token entries hfuel; omega
  | succ fuel ih =>
    intro seen token entries hfuel hseen
    have hpos := services.pageSize_pos
    by_cases hlast : services.pageSize < (remaining bucket below token).length
    · -- a full page: its last key is the next token
      obtain ⟨front, x, hpage⟩ : ∃ front x,
          (remaining bucket below token).take services.pageSize = front ++ [x] := by
        rcases List.eq_nil_or_concat ((remaining bucket below token).take services.pageSize)
          with hnil | ⟨front, x, h⟩
        · have := congrArg List.length hnil
          simp only [List.length_take, List.length_nil] at this
          omega
        · exact ⟨front, x, by simpa using h⟩
      have hcut : remaining bucket below token =
          front ++ x :: (remaining bucket below token).drop services.pageSize := by
        have := List.take_append_drop services.pageSize (remaining bucket below token)
        rw [hpage] at this
        simpa using this.symm
      have hmem : x ∈ remaining bucket below token :=
        List.mem_of_mem_take (hpage ▸ List.mem_append_right _ (List.mem_singleton_self x))
      have hnext := remaining_after hcut
      have hnonempty : x.1 ≠ [] := by
        intro h
        have := (below_of_mem_remaining hmem).1
        rw [h] at this
        exact hbelow (List.prefix_nil.mp this)
      have hnew : x.1 ∉ seen := fun h => lt_irrefl _ (hseen _ h x hmem)
      have hrec := fun entries => ih (x.1 :: seen) (some x.1) entries
        (by rw [hnext, List.length_drop]; omega) (by
          intro t ht y hy
          have hy' := (below_of_mem_remaining hy).2
          have hxy : x.1 < y.1 := by simpa [afterToken] using hy'
          rcases List.mem_cons.mp ht with rfl | ht
          · exact hxy
          · exact lt_trans (hseen t ht x hmem) hxy)
      have hsplit := pageEntries_append below (front ++ [x])
        ((remaining bucket below token).drop services.pageSize)
      rw [← hpage, List.take_append_drop] at hsplit
      rw [hsplit, inventoryEntries]
      simp [listObjectsV2, hlast, hpage, refuse_of_not hnonempty, refuse_of_not hnew, hrec, hnext]
    · -- the last page
      have htake : (remaining bucket below token).take services.pageSize =
          remaining bucket below token := List.take_of_length_le (by omega)
      simp [inventoryEntries, listObjectsV2, hlast, htake]

theorem inventory_eq (config : Config) (buckets : Buckets) : inventory services config buckets = (do
      let entries ← pageEntries (dataPrefix config)
        ((buckets config.bucket).select (dataPrefix config).isPrefixOf)
      summarize services entries) := by
  have hlisting : remaining (buckets config.bucket) (dataPrefix config) none =
      (buckets config.bucket).select (dataPrefix config).isPrefixOf := by
    simp [remaining, afterToken]
  have hfuel : (remaining (buckets config.bucket) (dataPrefix config) none).length <
      (buckets config.bucket).entries.length + 1 := by
    have := List.length_filter_le
      (fun x : Text × Object => (dataPrefix config).isPrefixOf x.1 && afterToken none x.1)
      (buckets config.bucket).entries
    simp only [remaining, KeyedStore.select]
    omega
  have hnonempty : dataPrefix config ≠ [] := by simp [dataPrefix]
  have hentries := inventoryEntries_eq services (buckets config.bucket) hnonempty _ [] none []
    hfuel (by simp)
  simp only [inventory]
  rw [hentries, hlisting]
  simp

/-! ## Independent recovery points -/

/-- The objects of a recovery point: the data below its prefix, its lock, its manifest. -/
def Owns (config : Config) (key : Text) : Prop :=
  (dataPrefix config <+: key ∧ key ≠ dataPrefix config) ∨ key = lockKey config ∨
    key = manifestKey config

inductive Change
  | write (object : Object)
  | delete

def Change.apply (key : Text) (bucket : Bucket) : Change → Bucket
  | .write object => bucket.put key object
  | .delete => bucket.erase key

/-- The server after a change of an object of a recovery point. -/
def change (config : Config) (key : Text) (c : Change) (buckets : Buckets) : Buckets :=
  Function.update buckets config.bucket (c.apply key (buckets config.bucket))

/-- All that is read of a recovery point. -/
structure Reading where
  inventory : Except Error Inventory
  lock : Except Text (Option (Lock × Text))
  manifest : Except Error (Option Manifest)

/-- `Inventory`, `readLock` and `Manifest`. -/
def reading (config : Config) (buckets : Buckets) : Reading :=
  ⟨inventory services config buckets, readLock services config buckets,
    readManifest services config buckets⟩

/-- No change of an object of `first` changes what is read of `second`. -/
def Independent (first second : Config) : Prop :=
  ∀ (buckets : Buckets) (key : Text), Owns first key → ∀ c : Change,
    reading services second (change first key c buckets) = reading services second buckets

/-- One recovery point lies in the other: `prefix/name` of one is in front of the other's. -/
def Nested (first second : Config) : Prop :=
  first.path <+: second.path ∨ second.path <+: first.path

/-- The keys that decide what is read of a recovery point. -/
def Reads (config : Config) (key : Text) : Prop :=
  dataPrefix config <+: key ∨ key = lockKey config ∨ key = manifestKey config

variable {config second : Config} {key : Text}

theorem Owns.reads (h : Owns config key) : Reads config key :=
  h.imp_left And.left

/-- The segments of such a key: those of `prefix/name` and more, or those of a control object. -/
theorem Reads.segments (safe : Safe config) (h : Reads config key) :
    (∃ rest, rest ≠ [] ∧ split key = config.path ++ rest) ∨
      ∃ suffix ∈ [lockSuffix, manifestSuffix],
        split key = dirSegments config.prefixPath ++ [config.name ++ suffix] := by
  rcases h with h | rfl | rfl
  · exact .inl ((prefix_dataPrefix_iff safe).mp h)
  · exact .inr ⟨lockSuffix, by simp, split_lockKey safe⟩
  · exact .inr ⟨manifestSuffix, by simp, split_manifestKey safe⟩

theorem reverse_getElem?_suffix {suffix : Text} (h : 5 < suffix.length) (name : Text) :
    (name ++ suffix).reverse[5]? = suffix.reverse[5]? := by
  rw [List.reverse_append, List.getElem?_append_left (by simpa using h)]

theorem name_eq_of_suffix {name name' suffix suffix' : Text}
    (hsuffix : suffix ∈ [lockSuffix, manifestSuffix])
    (hsuffix' : suffix' ∈ [lockSuffix, manifestSuffix]) (h : name ++ suffix = name' ++ suffix') :
    name = name' := by
  have hlong : ∀ s ∈ [lockSuffix, manifestSuffix], 5 < s.length := by decide
  -- counted from the end, the sixth characters are `k` and `e`
  have hdiffer : ∀ s ∈ [lockSuffix, manifestSuffix], ∀ s' ∈ [lockSuffix, manifestSuffix],
      s.reverse[5]? = s'.reverse[5]? → s = s' := by decide
  have hend := congrArg (fun s : Text => s.reverse[5]?) h
  simp only [reverse_getElem?_suffix (hlong _ hsuffix),
    reverse_getElem?_suffix (hlong _ hsuffix')] at hend
  rw [hdiffer _ hsuffix _ hsuffix' hend] at h
  exact List.append_cancel_right h

/-- What is below one recovery point is not next to the other, unless it lies inside. -/
theorem prefix_of_below_sibling {path rest : List Text} {last : Text} (hrest : rest ≠ [])
    (h : path ++ rest = dirSegments config.prefixPath ++ [last]) :
    path <+: config.path := by
  have hfront : path <+: dirSegments config.prefixPath := by
    obtain ⟨front, x, rfl⟩ : ∃ front x, rest = front ++ [x] := by
      rcases List.eq_nil_or_concat rest with h | ⟨front, x, h⟩
      · exact absurd h hrest
      · exact ⟨front, x, by simpa using h⟩
    rw [← List.append_assoc] at h
    exact ⟨front, (List.append_inj' h rfl).1⟩
  exact hfront.trans (List.prefix_append _ _)

/-- A key that two recovery points have in common puts one into the other. -/
theorem nested_of_common_key {first : Config} (hfirst : Safe first) (hsecond : Safe second)
    (h : Reads first key) (h' : Reads second key) : Nested first second := by
  rcases h.segments hfirst with ⟨rest, hrest, hkey⟩ | ⟨suffix, hsuffix, hkey⟩ <;>
    rcases h'.segments hsecond with ⟨rest', hrest', hkey'⟩ | ⟨suffix', hsuffix', hkey'⟩
  · -- both prefixes are in front of the key
    exact List.prefix_or_prefix_of_prefix ⟨rest, hkey.symm⟩ ⟨rest', hkey'.symm⟩
  · exact .inl (prefix_of_below_sibling hrest (hkey.symm.trans hkey'))
  · exact .inr (prefix_of_below_sibling hrest' (hkey'.symm.trans hkey))
  · -- two control objects: the same directory and the same name
    obtain ⟨hdir, hname⟩ := List.append_inj' (hkey.symm.trans hkey') rfl
    have hname : first.name = second.name :=
      name_eq_of_suffix hsuffix hsuffix' (by simpa using hname)
    left
    rw [Config.path, Config.path, hdir, hname]

theorem select_apply_of_not {p : Text → Bool} (hkey : p key = false) (bucket : Bucket)
    (c : Change) : (c.apply key bucket).select p = bucket.select p := by
  cases c with
  | write object => exact KeyedStore.select_put_of_not hkey object bucket
  | delete => exact KeyedStore.select_erase_of_not hkey bucket

theorem get_apply_of_ne {other : Text} (hkey : key ≠ other) (bucket : Bucket) (c : Change) :
    (c.apply key bucket).get other = bucket.get other := by
  cases c with
  | write object => exact KeyedStore.get_put_of_ne hkey object bucket
  | delete => exact KeyedStore.get_erase_of_ne hkey bucket

theorem reading_change_of_not_reads {first : Config}
    (hbucket : first.bucket = second.bucket) (hkey : ¬ Reads second key) (c : Change)
    (buckets : Buckets) :
    reading services second (change first key c buckets) = reading services second buckets := by
  have hchange : change first key c buckets second.bucket = c.apply key
      (buckets second.bucket) := by
    rw [change, hbucket, Function.update_self]
  have hbelow : (dataPrefix second).isPrefixOf key = false := by
    by_contra h
    exact hkey (.inl (List.isPrefixOf_iff_prefix.mp (by simpa using h)))
  have hdata := select_apply_of_not hbelow (buckets second.bucket) c
  have hlock := get_apply_of_ne (fun h => hkey (.inr (.inl h))) (buckets second.bucket) c
  have hmanifest := get_apply_of_ne (fun h => hkey (.inr (.inr h))) (buckets second.bucket) c
  simp only [reading, inventory_eq, readLock, readManifest, hchange, hdata, hlock, hmanifest]

/-- An object of one recovery point that is counted in the inventory of the other one. -/
theorem exists_counted_key {first : Config} (hfirst : Safe first) (hsecond : Safe second)
    (hne : first.path ≠ second.path) (h : Nested first second) :
    ∃ key, Owns first key ∧ dataPrefix second <+: key ∧ key ≠ dataPrefix second := by
  have hroot : ∀ {config : Config}, Safe config →
      split (dataPrefix config) = config.path ++ [[]] := by
    intro config safe
    simpa [split] using split_dataPrefix_append safe []
  rcases h with ⟨rest, hpath⟩ | ⟨rest, hpath⟩
  · -- the first one is the outer one: a data object of it below the prefix of the inner one
    have hrest : rest ≠ [] := by
      rintro rfl
      exact hne (by simpa using hpath)
    have hkey : split (dataPrefix second ++ ['x']) = first.path ++ (rest ++ [['x']]) := by
      rw [split_dataPrefix_append hsecond, ← hpath, split_of_not_mem (by decide), List.append_assoc]
    refine ⟨dataPrefix second ++ ['x'], .inl ⟨?_, ?_⟩, List.prefix_append _ _, by simp⟩
    · exact (prefix_dataPrefix_iff hfirst).mpr ⟨_, by simp, hkey⟩
    · intro h
      rw [h, hroot hfirst] at hkey
      have hlength := congrArg List.length (List.append_cancel_left hkey)
      simp only [List.length_append, List.length_singleton] at hlength
      have := List.length_pos_iff.mpr hrest
      omega
  · -- the first one is the inner one: its lock
    have hrest : rest ≠ [] := by
      rintro rfl
      exact hne (by simpa using hpath.symm)
    obtain ⟨front, x, rfl⟩ : ∃ front x, rest = front ++ [x] := by
      rcases List.eq_nil_or_concat rest with h | ⟨front, x, h⟩
      · exact absurd h hrest
      · exact ⟨front, x, by simpa using h⟩
    have hdir : dirSegments first.prefixPath = second.path ++ front := by
      rw [Config.path, ← List.append_assoc] at hpath
      exact (List.append_inj' hpath rfl).1.symm
    have hkey := split_lockKey hfirst
    refine ⟨lockKey first, .inr (.inl rfl), ?_, ?_⟩
    · refine (prefix_dataPrefix_iff hsecond).mpr ⟨front ++ [first.name ++ lockSuffix], by simp, ?_⟩
      rw [hkey, hdir, List.append_assoc]
    · intro h
      rw [h, hroot hsecond] at hkey
      have hlast := (List.append_inj' hkey rfl).2
      have hlong : lockSuffix ≠ [] := by decide
      simp [hlong] at hlast

def emptyObject : Object := ⟨[], 0, ['e']⟩

theorem inventory_single {buckets : Buckets}
    (hbelow : dataPrefix config <+: key) (hne : key ≠ dataPrefix config)
    (h : buckets config.bucket = KeyedStore.empty.put key emptyObject) :
    ∃ sha256, inventory services config buckets = .ok ⟨1, 0, sha256⟩ := by
  have hbelow : (dataPrefix config).isPrefixOf key = true := List.isPrefixOf_iff_prefix.mpr hbelow
  have hentries : pageEntries (dataPrefix config) [(key, emptyObject)] =
      .ok [⟨key.drop (dataPrefix config).length, 0, ['e']⟩] := by
    rw [pageEntries, if_neg (by simp [hbelow, hne])]
    rfl
  rw [inventory_eq, h, KeyedStore.select_put_empty hbelow, hentries]
  exact ⟨_, rfl⟩

theorem inventory_empty (config : Config) :
    inventory services config (fun _ => KeyedStore.empty) = .ok ⟨0, 0, services.sha256 []⟩ := by
  rw [inventory_eq, KeyedStore.select_empty]
  rfl

/-- Recovery points of one bucket are independent iff neither lies in the other. -/
theorem independent_iff_not_nested (first second : Config)
    (hfirst : validateConfig services.parseURL first = .ok ())
    (hsecond : validateConfig services.parseURL second = .ok ())
    (hbucket : first.bucket = second.bucket)
    (hne : (first.prefixPath, first.name) ≠ (second.prefixPath, second.name)) :
    Independent services first second ↔ ¬ Nested first second := by
  have hsafe := safe_of_validateConfig hfirst
  have hsafe' := safe_of_validateConfig hsecond
  constructor
  · intro hindependent hnested
    have hpath : first.path ≠ second.path := by
      intro h
      obtain ⟨hfront, hname⟩ := path_injective h
      exact hne (by rw [hfront, hname])
    obtain ⟨key, howns, hbelow, hkey⟩ := exists_counted_key hsafe hsafe' hpath hnested
    -- written to an empty bucket, the object makes a difference
    have h := hindependent (fun _ => KeyedStore.empty) key howns (.write emptyObject)
    have hcount := congrArg Reading.inventory h
    simp only [reading] at hcount
    have hbuckets : change first key (.write emptyObject) (fun _ => KeyedStore.empty)
        second.bucket = KeyedStore.empty.put key emptyObject := by
      rw [change, hbucket, Function.update_self]
      rfl
    obtain ⟨sha256, hsingle⟩ := inventory_single services hbelow hkey hbuckets
    rw [hsingle, inventory_empty] at hcount
    have hzero : (1 : Int64) = 0 := congrArg Inventory.objectCount (Except.ok.inj hcount)
    exact absurd hzero (by decide)
  · intro hnested buckets key howns c
    apply reading_change_of_not_reads services hbucket
    intro hreads
    exact hnested (nested_of_common_key hsafe hsafe' howns.reads hreads)

/-! ### Examples -/

/-- A server and libraries for examples without objects to decode. -/
def exampleServices : Services where
  pageSize := 1000
  pageSize_pos := by decide
  parseURL := fun _ => none
  sha256 := fun _ => "e3b0c44298fc1c149afbf4c8996fb92427ae41e4649b934ca495991b7852b855".toList
  unmarshalLock := fun _ => .error "unexpected end of JSON input".toList
  unmarshalManifest := fun _ => .error "unexpected end of JSON input".toList
  quantitySign := fun _ => .error []

/-- The recovery point `db` under the prefix `team`. -/
def teamDatabase : Config :=
  { bucket := "backups".toList, prefixPath := "team".toList, name := "db".toList }

/-- The recovery point `daily` under the prefix `team/db`. -/
def databaseDaily : Config :=
  { bucket := "backups".toList, prefixPath := "team/db".toList, name := "daily".toList }

/-- The recovery point `db2` under the prefix `team`. -/
def teamOtherDatabase : Config :=
  { bucket := "backups".toList, prefixPath := "team".toList, name := "db2".toList }

/-- A prefix may be another recovery point's place, and the two then interfere. -/
theorem nested_prefix_not_independent :
    validateConfig exampleServices.parseURL teamDatabase = .ok () ∧
      validateConfig exampleServices.parseURL databaseDaily = .ok () ∧
      teamDatabase.bucket = databaseDaily.bucket ∧
      (teamDatabase.prefixPath, teamDatabase.name) ≠
        (databaseDaily.prefixPath, databaseDaily.name) ∧
      ¬ Independent exampleServices databaseDaily teamDatabase := by
  refine ⟨by decide, by decide, rfl, by decide, ?_⟩
  intro h
  -- the lock of the inner recovery point is counted in the inventory of the outer one
  have hlock := congrArg Reading.inventory
    (h (fun _ => KeyedStore.empty) (lockKey databaseDaily) (.inr (.inl rfl)) (.write emptyObject))
  revert hlock
  decide

/-- Recovery points side by side are independent, also when one name starts with the other. -/
theorem siblings_independent :
    validateConfig exampleServices.parseURL teamDatabase = .ok () ∧
      validateConfig exampleServices.parseURL teamOtherDatabase = .ok () ∧
      Independent exampleServices teamDatabase teamOtherDatabase := by
  refine ⟨by decide, by decide, ?_⟩
  exact (independent_iff_not_nested exampleServices teamDatabase teamOtherDatabase (by decide)
    (by decide) rfl (by decide)).mpr (by unfold Nested; decide)

end ObjectStore

end PvcMigrate

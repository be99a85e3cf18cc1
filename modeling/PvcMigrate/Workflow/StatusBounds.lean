import Mathlib.Data.List.Induction
import Mathlib.Data.List.Nodup
import Mathlib.Data.String.Basic
import PvcMigrate.Lib.Machine
import PvcMigrate.Workflow.Status

/-!
# The bounds of a workflow status

The CRD bounds the history, the conditions and the texts of a status.  Three writers share the
status, in any order and any number of times; `Journal` runs a list of their calls and keeps every
change that was recorded beside the status.  A condition is looked up by its type after the cut, so
types that only differ behind it are one type.

Go cuts a text by bytes and drops bytes until the rest is valid.  `boundBytes` is that loop;
`boundWorkflowText` is what it makes of a valid text.
-/

namespace PvcMigrate

open String (utf8Len)

/-! ## Cutting a text -/

/-- The loop of `boundWorkflowText`, on the first `n` bytes. -/
def dropInvalid (bytes : ByteArray) : Nat → ByteArray
  | 0 => .empty
  | n + 1 =>
    if (bytes.extract 0 (n + 1)).validateUTF8 then bytes.extract 0 (n + 1)
    else dropInvalid bytes n

/-- `boundWorkflowText`, on the bytes of a text. -/
def boundBytes (bytes : ByteArray) (maxBytes : Nat) : ByteArray :=
  if bytes.size ≤ maxBytes then bytes else dropInvalid bytes maxBytes

section Cutting

variable (cs : List Char) (n : Nat)

theorem takeBytes_zero : takeBytes cs 0 = [] := by
  cases cs with
  | nil => rfl
  | cons c cs =>
    have hpos := c.utf8Size_pos
    simp [takeBytes, show ¬ c.utf8Size ≤ 0 by omega]

theorem takeBytes_isPrefix : takeBytes cs n <+: cs := by
  induction cs generalizing n with
  | nil => simp [takeBytes]
  | cons c cs ih =>
    simp only [takeBytes]
    split
    · exact List.prefix_cons_inj c |>.mpr (ih _)
    · exact List.nil_prefix

theorem utf8Len_takeBytes_le : utf8Len (takeBytes cs n) ≤ n := by
  induction cs generalizing n with
  | nil => simp [takeBytes]
  | cons c cs ih =>
    simp only [takeBytes]
    split
    · have hrest := ih (n - c.utf8Size)
      simp only [utf8Len]
      omega
    · simp

/-- The character that does not fit has at most four bytes. -/
theorem lt_utf8Len_takeBytes_add (h : n < utf8Len cs) : n < utf8Len (takeBytes cs n) + 4 := by
  induction cs generalizing n with
  | nil => simp [utf8Len] at h
  | cons c cs ih =>
    simp only [utf8Len] at h
    simp only [takeBytes]
    split
    · have hrest := ih (n - c.utf8Size) (by omega)
      simp only [utf8Len]
      omega
    · have hfour := c.utf8Size_le_four
      simp only [utf8Len]
      omega

theorem takeBytes_append (rest : List Char) : takeBytes (cs ++ rest) (utf8Len cs) = cs := by
  induction cs with
  | nil => exact takeBytes_zero rest
  | cons c cs ih =>
    rw [List.cons_append, takeBytes, if_pos (by simp [utf8Len]), utf8Len, Nat.add_sub_cancel, ih]

/-- One more byte completes a character, or it is dropped again. -/
theorem takeBytes_succ :
    utf8Len (takeBytes cs (n + 1)) = n + 1 ∨ takeBytes cs (n + 1) = takeBytes cs n := by
  induction cs generalizing n with
  | nil => exact .inr rfl
  | cons c cs ih =>
    simp only [takeBytes]
    by_cases hfits : c.utf8Size ≤ n
    · rw [if_pos (by omega), if_pos hfits, show n + 1 - c.utf8Size = n - c.utf8Size + 1 by omega]
      refine (ih (n - c.utf8Size)).imp (fun h => ?_) fun h => by rw [h]
      simp only [utf8Len]
      omega
    · by_cases hnext : c.utf8Size = n + 1
      · rw [if_pos hnext.le, hnext, Nat.sub_self, takeBytes_zero]
        exact .inl (by simp [utf8Len, hnext])
      · rw [if_neg (by omega), if_neg hfits]
        exact .inr rfl

end Cutting

/-- A valid text of the first bytes ends where a character does. -/
theorem validateUTF8_extract_iff {value : String} {n : Nat} (hn : n ≤ value.utf8ByteSize) :
    (value.toByteArray.extract 0 n).validateUTF8 = true ↔
      ∃ front rest : String, value = front ++ rest ∧ n = front.utf8ByteSize := by
  rw [ByteArray.validateUTF8_eq_true_iff]
  have hvalid := String.Pos.Raw.isValid_iff_isValidUTF8_extract_zero (s := value) (p := ⟨n⟩)
  rw [String.Pos.Raw.isValid_iff_exists_append] at hvalid
  constructor
  · intro h
    obtain ⟨front, rest, hvalue, hend⟩ := hvalid.mpr ⟨hn, h⟩
    exact ⟨front, rest, hvalue, congrArg String.Pos.Raw.byteIdx hend⟩
  · rintro ⟨front, rest, hvalue, hend⟩
    exact (hvalid.mp ⟨front, rest, hvalue, String.Pos.Raw.ext hend⟩).2

theorem dropInvalid_toByteArray (value : String) {n : Nat} (hn : n ≤ value.utf8ByteSize) :
    dropInvalid value.toByteArray n =
      (String.ofList (takeBytes value.toList n)).toByteArray := by
  induction n with
  | zero =>
    rw [takeBytes_zero]
    simp [dropInvalid]
  | succ n ih =>
    rw [dropInvalid]
    by_cases hvalid : (value.toByteArray.extract 0 (n + 1)).validateUTF8 = true
    · rw [if_pos hvalid]
      obtain ⟨front, rest, rfl, hend⟩ := (validateUTF8_extract_iff hn).mp hvalid
      rw [hend, String.toList_append, ← String.utf8Len_toList front, takeBytes_append,
        String.ofList_toList, String.utf8Len_toList, String.toByteArray_append]
      exact ByteArray.extract_append_eq_left rfl
    · rw [if_neg hvalid, ih (by omega)]
      rcases takeBytes_succ value.toList n with hwhole | hsame
      · refine absurd ((validateUTF8_extract_iff hn).mpr ?_) hvalid
        obtain ⟨rest, hrest⟩ := takeBytes_isPrefix value.toList (n + 1)
        refine ⟨.ofList (takeBytes value.toList (n + 1)), .ofList rest, ?_, ?_⟩
        · rw [← String.ofList_append, hrest, String.ofList_toList]
        · rw [String.utf8ByteSize_ofList, hwhole]
      · rw [hsame]

/-- What is stored of a text whose bytes are limited. -/
structure Cut (given stored : String) (limit : Nat) : Prop where
  /-- it is what the loop leaves of the bytes -/
  bytes : stored.toByteArray = boundBytes given.toByteArray limit
  isPrefix : stored.toList <+: given.toList
  fits : stored.utf8ByteSize ≤ limit
  whole : given.utf8ByteSize ≤ limit → stored = given
  nearly : limit < given.utf8ByteSize → limit ≤ stored.utf8ByteSize + 3

theorem cut_boundWorkflowText (value : String) (limit : Nat) :
    Cut value (boundWorkflowText value limit) limit := by
  unfold boundWorkflowText
  by_cases hfits : value.utf8ByteSize ≤ limit
  · rw [if_pos hfits]
    refine ⟨(if_pos hfits).symm, List.prefix_rfl, hfits, fun _ => rfl, fun hlong => ?_⟩
    omega
  · rw [if_neg hfits]
    have hbytes : boundBytes value.toByteArray limit = _ := if_neg hfits
    have hlong : limit < utf8Len value.toList := by
      rw [String.utf8Len_toList]
      omega
    have hle := utf8Len_takeBytes_le value.toList limit
    have hnearly := lt_utf8Len_takeBytes_add value.toList limit hlong
    refine ⟨?_, ?_, ?_, fun h => absurd h hfits, fun _ => ?_⟩
    · rw [hbytes, dropInvalid_toByteArray value (by omega)]
    · rw [String.toList_ofList]
      exact takeBytes_isPrefix value.toList limit
    · rwa [String.utf8ByteSize_ofList]
    · rw [String.utf8ByteSize_ofList]
      omega

/-! ## Runs of the writers -/

inductive StatusCall
  | recordTransition (next : WorkflowPhase) (message : String) (now : Time)
  | reactivate (message : String) (now : Time)
  | setCondition (condition : WorkflowCondition)

namespace StatusCall

/-- The status after the call; one that fails leaves it alone. -/
def apply (status : WorkflowStatus) : StatusCall → WorkflowStatus
  | .recordTransition next message now => recordWorkflowTransition status next message now
  | .reactivate message now => (reactivateWorkflow status message now).toOption.getD status
  | .setCondition condition => setWorkflowCondition status condition

def change (status : WorkflowStatus) : StatusCall → List WorkflowHistoryEntry
  | .recordTransition next message now =>
    if status.phase = next then [] else [⟨next, now, boundWorkflowMessage message⟩]
  | .reactivate message now =>
    if status.phase ≠ .failed ∨ status.resumeFrom = .unset then []
    else [⟨status.resumeFrom, now, boundWorkflowMessage message⟩]
  | .setCondition _ => []

def message : StatusCall → Option String
  | .recordTransition _ message _ | .reactivate message _ => some message
  | .setCondition _ => none

def condition : StatusCall → Option WorkflowCondition
  | .setCondition condition => some condition
  | _ => none

end StatusCall

/-- A status, and every phase change that was recorded in it. -/
structure Journal where
  status : WorkflowStatus := {}
  changes : List WorkflowHistoryEntry := []

def Journal.step (j : Journal) (call : StatusCall) : Journal :=
  ⟨call.apply j.status, j.changes ++ call.change j.status⟩

/-- The stored condition is the given one with its texts cut. -/
structure CutCondition (given stored : WorkflowCondition) : Prop where
  type : Cut given.type stored.type 64
  status : stored.status = given.status
  reason : Cut given.reason stored.reason 128
  message : Cut given.message stored.message 8192
  lastTransitionTime : stored.lastTransitionTime = given.lastTransitionTime

/-- The text is what is stored of a message that one of the calls gives. -/
def FromMessage (calls : List StatusCall) (stored : String) : Prop :=
  ∃ call ∈ calls, ∃ given ∈ call.message, Cut given stored 8192

/-- What holds of the history and of the message after the calls. -/
structure HistoryWithin (calls : List StatusCall) (j : Journal) : Prop where
  length_le : j.status.history.length ≤ 256
  /-- it is the end of what the calls changed -/
  kept : j.status.history = keepLast 256 j.changes
  given : ∀ entry ∈ j.status.history, FromMessage calls entry.message
  message : j.status.message = "" ∨ FromMessage calls j.status.message

/-- What holds of the conditions after the calls. -/
structure ConditionsWithin (calls : List StatusCall) (conditions : List WorkflowCondition) :
    Prop where
  length_le : conditions.length ≤ 32
  nodup : (conditions.map WorkflowCondition.type).Nodup
  given : ∀ stored ∈ conditions, ∃ call ∈ calls, ∃ given ∈ call.condition,
    CutCondition given stored
  last : ∀ given, (calls.filterMap StatusCall.condition).getLast? = some given →
    ∃ stored ∈ conditions, CutCondition given stored

section Lists

variable {α : Type*} {n : Nat} {l : List α}

theorem keepLast_suffix (n : Nat) (l : List α) : keepLast n l <:+ l := List.drop_suffix _ _

theorem length_keepLast_le (n : Nat) (l : List α) : (keepLast n l).length ≤ n := by
  simp only [keepLast, List.length_drop]
  omega

theorem keepLast_of_length_le (h : l.length ≤ n) : keepLast n l = l := by
  rw [keepLast, Nat.sub_eq_zero_of_le h, List.drop_zero]

theorem mem_keepLast_append (a : α) (hn : 0 < n) : a ∈ keepLast n (l ++ [a]) := by
  rw [keepLast, List.drop_append_of_le_length (by simp; omega)]
  exact List.mem_append_right _ List.mem_cons_self

theorem keepLast_append (a : α) : keepLast n (keepLast n l ++ [a]) = keepLast n (l ++ [a]) := by
  rw [keepLast, keepLast, keepLast, ← List.drop_append_of_le_length (by omega), List.drop_drop]
  congr 1
  simp only [List.length_drop, List.length_append, List.length_singleton]
  omega

variable {c : WorkflowCondition} {conditions : List WorkflowCondition}

theorem upsertCondition_of_notMem (h : c.type ∉ conditions.map WorkflowCondition.type) :
    upsertCondition c conditions = conditions ++ [c] := by
  induction conditions with
  | nil => rfl
  | cons d ds ih =>
    rw [List.map_cons, List.mem_cons, not_or] at h
    rw [upsertCondition, if_neg (Ne.symm h.1), ih h.2, List.cons_append]

theorem map_type_upsertCondition (h : c.type ∈ conditions.map WorkflowCondition.type) :
    (upsertCondition c conditions).map WorkflowCondition.type =
      conditions.map WorkflowCondition.type := by
  induction conditions with
  | nil => cases h
  | cons d ds ih =>
    rw [upsertCondition]
    split
    · rename_i hsame
      simp [hsame]
    · rename_i hother
      rw [List.map_cons, List.map_cons, ih ((List.mem_cons.mp h).resolve_left (Ne.symm hother))]

theorem mem_upsertCondition_self (c : WorkflowCondition) (conditions : List WorkflowCondition) :
    c ∈ upsertCondition c conditions := by
  induction conditions with
  | nil => exact List.mem_cons_self
  | cons d ds ih =>
    rw [upsertCondition]
    split
    · exact List.mem_cons_self
    · exact List.mem_cons_of_mem _ ih

theorem eq_or_mem_of_mem_upsertCondition {d : WorkflowCondition}
    (h : d ∈ upsertCondition c conditions) : d = c ∨ d ∈ conditions := by
  induction conditions with
  | nil => exact .inl (List.mem_singleton.mp h)
  | cons e es ih =>
    rw [upsertCondition] at h
    split at h
    · exact (List.mem_cons.mp h).imp_right (List.mem_cons_of_mem e)
    · rcases List.mem_cons.mp h with rfl | hrest
      · exact .inr List.mem_cons_self
      · exact (ih hrest).imp_right (List.mem_cons_of_mem e)

end Lists

section Steps

variable {calls : List StatusCall} {j : Journal} {call : StatusCall}

theorem FromMessage.more {stored : String} (h : FromMessage calls stored) :
    FromMessage (calls ++ [call]) stored := by
  obtain ⟨other, hother, hgiven⟩ := h
  exact ⟨other, List.mem_append_left _ hother, hgiven⟩

theorem HistoryWithin.skip {status : WorkflowStatus} (h : HistoryWithin calls j)
    (hhistory : status.history = j.status.history) (hmessage : status.message = j.status.message) :
    HistoryWithin (calls ++ [call]) ⟨status, j.changes ++ []⟩ := by
  refine ⟨?_, ?_, ?_, ?_⟩
  · exact hhistory ▸ h.length_le
  · rw [List.append_nil]
    exact hhistory ▸ h.kept
  · intro entry hentry
    exact (h.given entry (hhistory ▸ hentry)).more
  · exact hmessage ▸ h.message.imp_right FromMessage.more

theorem HistoryWithin.record {status : WorkflowStatus} {entry : WorkflowHistoryEntry}
    {given : String} (h : HistoryWithin calls j) (hgiven : call.message = some given)
    (hentry : entry.message = boundWorkflowMessage given)
    (hhistory : status.history = trimWorkflowHistory (j.status.history ++ [entry]))
    (hmessage : status.message = entry.message) :
    HistoryWithin (calls ++ [call]) ⟨status, j.changes ++ [entry]⟩ := by
  have hnew : FromMessage (calls ++ [call]) entry.message :=
    ⟨call, by simp, given, hgiven, hentry ▸ cut_boundWorkflowText given 8192⟩
  have hkept : status.history <:+ j.status.history ++ [entry] := hhistory ▸ keepLast_suffix _ _
  refine ⟨?_, ?_, ?_, .inr (hmessage ▸ hnew)⟩
  · exact hhistory ▸ length_keepLast_le _ _
  · rw [hhistory, h.kept]
    exact keepLast_append entry
  · intro other hother
    rcases List.mem_append.mp (hkept.subset hother) with hold | hlast
    · exact (h.given other hold).more
    · obtain rfl := List.mem_singleton.mp hlast
      exact hnew

theorem HistoryWithin.step (h : HistoryWithin calls j) :
    HistoryWithin (calls ++ [call]) (j.step call) := by
  cases call with
  | recordTransition next message now =>
    unfold Journal.step StatusCall.change
    by_cases hsame : j.status.phase = next
    · simp only [StatusCall.apply, recordWorkflowTransition, hsame, if_true]
      exact h.skip rfl rfl
    · simp only [StatusCall.apply, recordWorkflowTransition, hsame, if_false]
      exact h.record rfl rfl (by simp only) (by simp only)
  | reactivate message now =>
    unfold Journal.step StatusCall.change StatusCall.apply reactivateWorkflow
    by_cases hclosed : j.status.phase ≠ .failed ∨ j.status.resumeFrom = .unset
    · simp only [hclosed, if_true]
      exact h.skip rfl rfl
    · simp only [hclosed, if_false, Except.toOption, Option.getD_some]
      exact h.record rfl rfl (by simp only) (by simp only)
  | setCondition condition =>
    refine h.skip ?_ ?_
    · exact history_setWorkflowCondition _ _
    · simp only [StatusCall.apply, setWorkflowCondition]

variable {conditions : List WorkflowCondition}

theorem ConditionsWithin.skip (h : ConditionsWithin calls conditions)
    (hnone : call.condition = none) : ConditionsWithin (calls ++ [call]) conditions where
  length_le := h.length_le
  nodup := h.nodup
  given stored hstored := by
    obtain ⟨other, hother, hgiven⟩ := h.given stored hstored
    exact ⟨other, List.mem_append_left _ hother, hgiven⟩
  last given hlast := h.last given (by simpa [hnone] using hlast)

/-- A call that sets a condition: either the types stay, or the new one is appended. -/
theorem ConditionsWithin.set {given stored : WorkflowCondition}
    (h : ConditionsWithin calls conditions) (hcut : CutCondition given stored) :
    ConditionsWithin (calls ++ [.setCondition given])
      (trimWorkflowConditions (upsertCondition stored conditions)) := by
  have hkept : trimWorkflowConditions (upsertCondition stored conditions) <:+
      upsertCondition stored conditions := keepLast_suffix _ _
  have htypes : ((upsertCondition stored conditions).map WorkflowCondition.type).Nodup ∧
      stored ∈ trimWorkflowConditions (upsertCondition stored conditions) := by
    by_cases hmem : stored.type ∈ conditions.map WorkflowCondition.type
    · have hsame := map_type_upsertCondition hmem
      have hlength : (upsertCondition stored conditions).length = conditions.length := by
        simpa using congrArg List.length hsame
      rw [hsame, trimWorkflowConditions, keepLast_of_length_le (hlength ▸ h.length_le)]
      exact ⟨h.nodup, mem_upsertCondition_self _ _⟩
    · rw [upsertCondition_of_notMem hmem, List.map_append]
      exact ⟨h.nodup.append (List.nodup_singleton _) (by simpa using hmem),
        mem_keepLast_append stored (by decide)⟩
  refine ⟨length_keepLast_le _ _, htypes.1.sublist (hkept.sublist.map _), ?_, ?_⟩
  · intro other hother
    rcases eq_or_mem_of_mem_upsertCondition (hkept.subset hother) with rfl | hold
    · exact ⟨.setCondition given, by simp, given, rfl, hcut⟩
    · obtain ⟨call, hcall, hgiven⟩ := h.given other hold
      exact ⟨call, List.mem_append_left _ hcall, hgiven⟩
  · intro last hlast
    obtain rfl : given = last := by simpa [StatusCall.condition] using hlast
    exact ⟨stored, htypes.2, hcut⟩

theorem cutCondition_bounded (given : WorkflowCondition) :
    CutCondition given
      { given with
        type := boundWorkflowConditionType given.type
        reason := boundWorkflowReason given.reason
        message := boundWorkflowMessage given.message } :=
  ⟨cut_boundWorkflowText _ _, rfl, cut_boundWorkflowText _ _, cut_boundWorkflowText _ _, rfl⟩

theorem ConditionsWithin.step (h : ConditionsWithin calls j.status.conditions) :
    ConditionsWithin (calls ++ [call]) (j.step call).status.conditions := by
  cases call with
  | recordTransition next message now =>
    have hsame : (recordWorkflowTransition j.status next message now).conditions =
        j.status.conditions := by
      unfold recordWorkflowTransition
      split <;> simp only
    exact (hsame ▸ h : ConditionsWithin calls _).skip rfl
  | reactivate message now =>
    have hsame : ((reactivateWorkflow j.status message now).toOption.getD j.status).conditions =
        j.status.conditions := by
      unfold reactivateWorkflow
      split <;> simp only [Except.toOption, Option.getD_none, Option.getD_some]
    exact (hsame ▸ h : ConditionsWithin calls _).skip rfl
  | setCondition condition =>
    exact h.set (cutCondition_bounded condition)

end Steps

/-- **The bounds of the CRD hold after every run of the writers.** -/
theorem status_within_bounds (calls : List StatusCall) :
    HistoryWithin calls (Machine.run Journal.step {} calls) ∧
      ConditionsWithin calls (Machine.run Journal.step {} calls).status.conditions := by
  induction calls using List.reverseRecOn with
  | nil => exact ⟨⟨by simp, rfl, by simp, .inl rfl⟩, ⟨by simp, by simp, by simp, by simp⟩⟩
  | append_singleton calls call ih =>
    rw [Machine.run_append]
    exact ⟨ih.1.step, ih.2.step⟩

end PvcMigrate

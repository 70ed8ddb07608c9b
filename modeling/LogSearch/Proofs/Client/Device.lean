import LogSearch.Text.Utf8
import LogSearch.World

/-!
# Outputs that take bytes

In the end, an output is a device that takes bytes.  It is given some, says how many of them it took, from
the first on, and is then given the others, until it has taken all of them or has failed.  A device that
takes none of the bytes that it is given has failed too; one that is interrupted has not, it is given the
same bytes again, and such calls are left out here.  A line goes to a device in two pieces, the text of the
line and its end.

All calls of a device are put down with what it said, so that what it received can be read off: a line that
was written has been received whole, and one that was not, up to a place in front of its end
(`written_sink`).

## What is here

* `Device`, `Device.Call`, `Device.Watched` — a device, its calls, and the calls of one so far;
* `Device.writeAll`, `Device.sink` — how bytes, and lines, are written;
* `Device.Written`, `written_sink` — what was received.
-/

set_option autoImplicit false
namespace LogSearch

/-- Whatever takes bytes. -/
structure Device (δ : Type) where
  /-- Takes some of the bytes, and says how many. -/
  write : (bytes : List UInt8) → δ → Except OutputFault (Fin (bytes.length + 1)) × δ
  /-- Passes on what was taken. -/
  flush : δ → Option OutputFault × δ

namespace Device

/-! ## Calls -/

/-- A call of a device, with what it said. -/
inductive Call
  | wrote (bytes : List UInt8) (answer : Except OutputFault (Fin (bytes.length + 1)))
  | flushed (fault : Option OutputFault)

/-- The fault of a device that takes none of the bytes that it is given. -/
def nothingTaken : OutputFault := .other "failed to write whole buffer"

namespace Call

/-- The bytes that were taken. -/
def taken : Call → List UInt8
  | .wrote bytes (.ok n) => bytes.take n
  | _ => []

/-- Why the call failed, if it did. -/
def fault? : Call → Option OutputFault
  | .wrote _ (.ok n) => if n.val = 0 then some nothingTaken else none
  | .wrote _ (.error fault) => some fault
  | .flushed fault => fault

/-- Whether bytes were to be taken. -/
def isWrite : Call → Bool
  | .wrote _ _ => true
  | .flushed _ => false

end Call

/-- A device, and what it was called for. -/
structure Watched (δ : Type) where
  device : δ
  /-- The calls so far, the last first. -/
  calls : List Call

namespace Watched

variable {δ : Type}

/-- All that the device has received. -/
def received (w : Watched δ) : List UInt8 := w.calls.reverse.flatMap Call.taken

/-- No call has failed. -/
def Intact (w : Watched δ) : Prop := ∀ call ∈ w.calls, call.fault? = none

/-- The last call has failed, and no other. -/
def FailedAt (w : Watched δ) (call : Call) (fault : OutputFault) : Prop :=
  call.fault? = some fault ∧ ∃ before, w.calls = call :: before ∧ ∀ call ∈ before, call.fault? = none

theorem received_cons (device device' : δ) (call : Call) (calls : List Call) :
    received ⟨device, call :: calls⟩ = received ⟨device', calls⟩ ++ call.taken := by
  simp [received]

end Watched

/-! ## Writing -/

section write

variable {δ : Type} (d : Device δ)

/-- Writes all bytes, unless the device fails. -/
def writeAll (bytes : List UInt8) (w : Watched δ) : Option OutputFault × Watched δ :=
  if bytes = [] then (none, w)
  else
    let (answer, device) := d.write bytes w.device
    let w := ⟨device, .wrote bytes answer :: w.calls⟩
    match answer with
    | .error fault => (some fault, w)
    | .ok n => if n.val = 0 then (some nothingTaken, w) else writeAll (bytes.drop n) w
  termination_by bytes.length
  decreasing_by
    rw [List.length_drop]
    exact Nat.sub_lt (List.length_pos_iff.2 ‹_›) (Nat.pos_of_ne_zero ‹_›)

/-- Writes one piece behind the other, unless the device fails. -/
def writeEach : List (List UInt8) → Watched δ → Option OutputFault × Watched δ
  | [], w => (none, w)
  | piece :: pieces, w =>
    match d.writeAll piece w with
    | (none, w) => writeEach pieces w
    | (some fault, w) => (some fault, w)

/-- The bytes of a line. -/
def bytesOf (line : String) : List UInt8 := Text.Utf8.encode line.toList

/-- The bytes of a line in two pieces, those of its text and those of its end. -/
def pieces (line : String) : List (List UInt8) :=
  [Text.Utf8.encode line.toList.dropLast, Text.Utf8.encode line.toList.getLast?.toList]

/-- The device as an output for lines. -/
def sink : Sink (Watched δ) where
  write line w := d.writeEach (pieces line) w
  flush w :=
    let (fault, device) := d.flush w.device
    (fault, ⟨device, .flushed fault :: w.calls⟩)

end write

/-! ## What was received -/

section received

variable {δ : Type} {d : Device δ} {w : Watched δ}

/-- What became of bytes that were written: the device has received all of them, or has failed before it
did. -/
def Written (bytes : List UInt8) (w : Watched δ) : Option OutputFault × Watched δ → Prop
  | (none, w') => w'.Intact ∧ w'.received = w.received ++ bytes
  | (some fault, w') => (∃ call, call.isWrite = true ∧ w'.FailedAt call fault) ∧
      ∃ part, part <+: bytes ∧ part.length < bytes.length ∧ w'.received = w.received ++ part

/-- What became of a flush: whether or not it failed, the device has received nothing more. -/
def Flushed (w : Watched δ) : Option OutputFault × Watched δ → Prop
  | (none, w') => w'.Intact ∧ w'.received = w.received
  | (some fault, w') => (∃ call, call.isWrite = false ∧ w'.FailedAt call fault) ∧
      w'.received = w.received

/-- Bytes that are written behind others. -/
theorem Written.behind {before bytes : List UInt8} {w' : Watched δ}
    {found : Option OutputFault × Watched δ} (hreceived : w'.received = w.received ++ before)
    (h : Written bytes w' found) : Written (before ++ bytes) w found := by
  obtain ⟨fault, w''⟩ := found
  cases fault with
  | none =>
    obtain ⟨hintact, hbytes⟩ := h
    exact ⟨hintact, by rw [hbytes, hreceived, List.append_assoc]⟩
  | some fault =>
    obtain ⟨hfailed, part, hpart, hlt, hbytes⟩ := h
    refine ⟨hfailed, before ++ part, (List.prefix_append_right_inj before).2 hpart, ?_, ?_⟩
    · simpa using hlt
    · rw [hbytes, hreceived, List.append_assoc]

theorem flatten_pieces (line : String) : (pieces line).flatten = bytesOf line := by
  have hsplit : line.toList.dropLast ++ line.toList.getLast?.toList = line.toList := by
    rcases List.eq_nil_or_concat line.toList with h | ⟨front, c, h⟩ <;> simp [h]
  rw [pieces, bytesOf, List.flatten_cons, List.flatten_singleton, Text.Utf8.encode, Text.Utf8.encode,
    ← List.flatMap_append, hsplit, Text.Utf8.encode]

theorem written_writeAll (bytes : List UInt8) (h : w.Intact) :
    Written bytes w (d.writeAll bytes w) := by
  induction hn : bytes.length using Nat.strongRecOn generalizing bytes w with
  | ind n ih =>
    rw [writeAll]
    by_cases hbytes : bytes = []
    · rw [if_pos hbytes, hbytes]
      exact ⟨h, (List.append_nil _).symm⟩
    · have hpos := List.length_pos_iff.2 hbytes
      rw [if_neg hbytes]
      obtain ⟨answer, device⟩ := d.write bytes w.device
      -- behind this call, the device has received what the call took
      have hcall : ∀ call : Call,
          Watched.received ⟨device, call :: w.calls⟩ = w.received ++ call.taken :=
        fun call ↦ Watched.received_cons device w.device call w.calls
      match answer with
      | .error fault => exact ⟨⟨_, rfl, rfl, w.calls, rfl, h⟩, [], List.nil_prefix, hpos, hcall _⟩
      | .ok n =>
        dsimp only
        by_cases hzero : n.val = 0
        · have hfault : (Call.wrote bytes (.ok n)).fault? = some nothingTaken := if_pos hzero
          rw [if_pos hzero]
          refine ⟨⟨_, rfl, hfault, w.calls, rfl, h⟩, [], List.nil_prefix, hpos, ?_⟩
          rw [hcall, Call.taken, hzero, List.take_zero]
        · have hfault : (Call.wrote bytes (.ok n)).fault? = none := if_neg hzero
          have hintact : Watched.Intact ⟨device, .wrote bytes (.ok n) :: w.calls⟩ :=
            List.forall_mem_cons.2 ⟨hfault, h⟩
          have hlt : (bytes.drop n.val).length < bytes.length := by
            rw [List.length_drop]
            exact Nat.sub_lt hpos (Nat.pos_of_ne_zero hzero)
          have hrest := (ih _ (hn ▸ hlt) (bytes.drop n.val) hintact rfl).behind (hcall _)
          rw [Call.taken, List.take_append_drop] at hrest
          rwa [if_neg hzero]

theorem written_writeEach (pieces : List (List UInt8)) (h : w.Intact) :
    Written pieces.flatten w (d.writeEach pieces w) := by
  induction pieces generalizing w with
  | nil => exact ⟨h, (List.append_nil _).symm⟩
  | cons piece pieces ih =>
    have hpiece := written_writeAll (d := d) piece h
    rw [writeEach, List.flatten_cons]
    match d.writeAll piece w, hpiece with
    | (some fault, w'), ⟨hfailed, part, hpart, hlt, hreceived⟩ =>
      refine ⟨hfailed, part, hpart.trans (List.prefix_append _ _), ?_, hreceived⟩
      rw [List.length_append]
      omega
    | (none, w'), ⟨hintact, hreceived⟩ => exact (ih hintact).behind hreceived

/-- **A line is received whole, or up to a place in front of its end.** -/
theorem written_sink (line : String) (h : w.Intact) :
    Written (bytesOf line) w (d.sink.write line w) := by
  rw [← flatten_pieces]
  exact written_writeEach (pieces line) h

theorem flushed_sink (h : w.Intact) : Flushed w (d.sink.flush w) := by
  have hcalls : (d.sink.flush w).2.calls = .flushed (d.sink.flush w).1 :: w.calls := rfl
  have hreceived : (d.sink.flush w).2.received = w.received :=
    (Watched.received_cons _ w.device _ w.calls).trans (List.append_nil _)
  match d.sink.flush w, hcalls, hreceived with
  | (none, w'), hcalls, hreceived =>
    have hintact : ∀ call ∈ Call.flushed none :: w.calls, call.fault? = none :=
      List.forall_mem_cons.2 ⟨rfl, h⟩
    exact ⟨fun call hcall ↦ hintact call (hcalls ▸ hcall), hreceived⟩
  | (some fault, w'), hcalls, hreceived => exact ⟨⟨_, rfl, rfl, w.calls, hcalls, h⟩, hreceived⟩

end received

end Device

end LogSearch

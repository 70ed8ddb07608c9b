import LogSearch.Json.Record
import LogSearch.Proofs.Json.Stored

/-!
# What readers return

Whatever the text, what is read from it is kept within bounds: integers have 64 bits, for longer ones
become doubles, nesting ends where the reader stops following it, and fields are sorted before they are
stored.  A property of results goes through a reader step by step, and what stands between the steps does
not matter for it.

A record may come as an object or as an array; either way its slots are filled one after the other, so a
property that every slot keeps holds in the end (`read_yields`).

## What is here

* `Gives`, `Yields` — a property of a result, and of all results of a reader;
* `readNumber_yields`, `readValue_yields` — numbers and documents;
* `readNatural_yields`, `readList_yields` — values of one kind;
* `Slot.Keeps`, `read_yields` — records;
* `decodeWith_yields` — whole texts.
-/

set_option autoImplicit false

namespace LogSearch.Json

/-! ## Properties of results -/

section gives

variable {α β : Type}

/-- The result has the property, if there is one. -/
def Gives (P : α → Prop) (result : Except Stop α) : Prop := ∀ a, result = .ok a → P a

variable {P : α → Prop} {Q : β → Prop}

@[simp] theorem gives_stop (cause : Cause) (unread : List Char) : Gives P (stop cause unread) := nofun

@[simp] theorem gives_stopAtNext (cause : Cause) (unread : List Char) :
    Gives P (stopAtNext cause unread) := nofun

@[simp] theorem gives_error (e : Stop) : Gives P (.error e) := nofun

@[simp] theorem gives_ok {a : α} : Gives P (.ok a) ↔ P a := by simp [Gives]

@[simp] theorem gives_pure {a : α} : Gives P (pure a) ↔ P a := gives_ok

theorem gives_true (result : Except Stop α) : Gives (fun _ ↦ True) result := fun _ _ ↦ trivial

theorem Gives.bind {x : Except Stop α} {f : α → Except Stop β} (hx : Gives P x)
    (hf : ∀ a, P a → Gives Q (f a)) : Gives Q (x >>= f) := by
  cases x with
  | error e => exact gives_error e
  | ok a => exact hf a (gives_ok.1 hx)

theorem Gives.map {x : Except Stop α} {f : α → β} (hx : Gives P x) (hf : ∀ a, P a → Q (f a)) :
    Gives Q (x.map f) := by
  cases x with
  | error e => exact gives_error e
  | ok a => exact gives_ok.2 (hf a (gives_ok.1 hx))

/-- Whatever the reader returns has the property. -/
def Yields (P : α → Prop) (reader : Reader α) : Prop := ∀ cs, Gives (fun found ↦ P found.1) (reader cs)

end gives

/-! ## Numbers -/

section numbers

theorem absorb_le {start : Nat} (h : start ≤ maxSignificand) (digits : List Char) :
    (absorb start digits).1 ≤ maxSignificand := by
  induction digits generalizing start with
  | nil => exact h
  | cons c digits ih =>
    rw [absorb]
    dsimp only
    split
    · next hnext => exact ih hnext
    · exact h

theorem integer_fits (negative : Bool) {n : Nat} (h : n ≤ maxSignificand) : (integer negative n).Fits := by
  have hmax : n ≤ 2 ^ 64 - 1 := h
  unfold integer
  split
  · exact ⟨by omega, by omega⟩
  · split
    · trivial
    · split
      · next hle =>
        have hle : n ≤ 2 ^ 63 := hle
        show -2 ^ 63 ≤ -(n : Int) ∧ -(n : Int) < 2 ^ 64
        omega
      · trivial

theorem double?_fits {negative : Bool} {n : Nat} {exponent : Int} {value : Number}
    (h : double? negative n exponent = some value) : value.Fits := by
  obtain ⟨f, -, rfl⟩ := Option.map_eq_some_iff.1 h
  trivial

variable (negative : Bool) (n : Nat) (shift : Int)

theorem readExponent_yields : Yields Number.Fits (readExponent negative n shift) := by
  intro cs
  unfold readExponent
  split
  split
  · exact gives_stop _ _
  · split
    · exact gives_stopAtNext _ _
    · split
      · split
        · next h => exact gives_ok.2 (double?_fits h)
        · exact gives_stop _ _
      · split
        · exact gives_stop _ _
        · exact gives_ok.2 trivial

theorem readExponentPart_yields : Yields Number.Fits (readExponentPart negative n shift) := by
  intro cs
  unfold readExponentPart
  split
  · exact readExponent_yields negative n shift _
  · exact readExponent_yields negative n shift _
  · split
    · next h => exact gives_ok.2 (double?_fits h)
    · exact gives_stop _ _

theorem readFraction_yields : Yields Number.Fits (readFraction negative n shift) := by
  intro cs
  unfold readFraction
  dsimp only
  split
  · split
    · exact gives_stop _ _
    · exact gives_stopAtNext _ _
  · exact readExponentPart_yields _ _ _ _

theorem readUnsigned_yields : Yields Number.Fits (readUnsigned negative) := by
  intro cs
  unfold readUnsigned
  dsimp only
  split
  · exact gives_stop _ _
  · split
    · exact gives_stopAtNext _ _
    · split
      · exact gives_stopAtNext _ _
      · split
        · exact readFraction_yields _ _ _ _
        · split
          · exact readExponentPart_yields _ _ _ _
          · exact gives_ok.2 (integer_fits negative (absorb_le (Nat.zero_le _) _))

/-- Integers that do not fit are read as doubles. -/
theorem readNumber_yields : Yields Number.Fits readNumber := by
  intro cs
  unfold readNumber
  split
  · exact readUnsigned_yields true _
  · exact readUnsigned_yields false _

end numbers

/-! ## Items and fields -/

section lists

variable {α σ : Type} {P : α → Prop} {Q : σ → Prop}

theorem readItems_yields {item : Reader α} (h : Yields P item) (fuel : Nat) (first : Bool) :
    Yields (fun values ↦ ∀ value ∈ values, P value) (readItems item fuel first) := by
  induction fuel generalizing first with
  | zero => exact fun cs ↦ gives_stop _ _
  | succ fuel ih =>
    intro cs
    have hnext : Yields (fun values ↦ ∀ value ∈ values, P value) fun cs ↦ item cs >>= fun found ↦
        readItems item fuel false found.2 >>= fun others ↦ pure (found.1 :: others.1, others.2) :=
      fun cs ↦ (h cs).bind fun found hfound ↦ (ih false found.2).bind fun others hothers ↦
        gives_pure.2 (List.forall_mem_cons.2 ⟨hfound, hothers⟩)
    rw [readItems]
    split
    · exact gives_stop _ _
    · exact gives_ok.2 (List.forall_mem_nil _)
    · -- whatever stands in front of the item
      dsimp only
      repeat' split
      all_goals exact (gives_true _).bind fun cs _ ↦ hnext cs

theorem readFields_yields {field : σ → String → Reader σ}
    (h : ∀ gathered name, Q gathered → Yields Q (field gathered name)) (fuel : Nat) (first : Bool)
    {gathered : σ} (hstart : Q gathered) : Yields Q (readFields field fuel first gathered) := by
  induction fuel generalizing first gathered with
  | zero => exact fun cs ↦ gives_stop _ _
  | succ fuel ih =>
    intro cs
    have hnext : Yields Q fun cs ↦ readString cs >>= fun named ↦
        field gathered (String.ofList named.1) named.2 >>= fun found ↦
          readFields field fuel false found.1 found.2 :=
      fun cs ↦ (gives_true _).bind fun named _ ↦
        (h gathered _ hstart named.2).bind fun found hfound ↦ ih false hfound found.2
    rw [readFields]
    split
    · exact gives_stop _ _
    · exact gives_ok.2 hstart
    · -- whatever stands in front of the name
      dsimp only
      repeat' split
      all_goals exact (gives_true _).bind fun cs _ ↦ hnext cs

end lists

/-! ## Documents -/

theorem readWord_yields {α : Type} {P : α → Prop} {value : α} (h : P value) (word : List Char) :
    Yields P (readWord value word) := by
  induction word with
  | nil => exact fun cs ↦ gives_ok.2 h
  | cons w word ih =>
    intro cs
    cases cs with
    | nil => exact gives_stop _ _
    | cons c cs =>
      rw [readWord]
      split
      · exact ih cs
      · exact gives_stopAtNext _ _

/-- What becomes of the value is stored, and is nested no deeper than `nesting`. -/
def Keeps (nesting : Nat) (value : Json) : Prop :=
  value.canonical.Stored ∧ value.canonical.depth ≤ nesting

theorem Stored.keeps {value : Json} {nesting : Nat} (h : value.Stored) (hdepth : value.depth ≤ nesting) :
    Keeps nesting value := by
  rw [Keeps, h.canonical_eq]
  exact ⟨h, hdepth⟩

/-- **What is read fits into memory** once its fields are sorted, and is nested no deeper than allowed. -/
theorem readValue_yields (nesting : Nat) : Yields (Keeps nesting) (readValue (nesting + 1)) := by
  induction nesting using Nat.strongRecOn with
  | ind nesting ih =>
    intro cs
    have hword {value : Json} (h : value.Stored) (hdepth : value.depth ≤ nesting) (word : List Char) :
        Yields (Keeps nesting) (readWord value word) := readWord_yields (h.keeps hdepth) word
    rw [readValue]
    split
    · exact gives_stop _ _
    · exact hword .null (Nat.zero_le _) _ _
    · exact hword (.bool true) (Nat.zero_le _) _ _
    · exact hword (.bool false) (Nat.zero_le _) _ _
    · exact (gives_true _).map fun found _ ↦ (Stored.string _).keeps (Nat.zero_le _)
    · split
      · next n hn =>
        obtain rfl : nesting = n + 1 := Nat.succ.inj hn
        refine (readItems_yields (ih n (Nat.lt_succ_self n)) _ true _).map fun found hfound ↦ ?_
        exact ⟨stored_canonical_array fun item hitem ↦ (hfound item hitem).1,
          depth_canonical_array_le fun item hitem ↦ (hfound item hitem).2⟩
      · exact gives_stopAtNext _ _
    · split
      · next n hn =>
        obtain rfl : nesting = n + 1 := Nat.succ.inj hn
        dsimp only
        refine (@readFields_yields _ (fun fields ↦ ∀ field ∈ fields, Keeps n field.2) _ ?_ _ true []
          (List.forall_mem_nil _) _).map fun found hfound ↦ ?_
        · intro fields name hfields cs
          refine (gives_true _).bind fun cs _ ↦ (ih n (Nat.lt_succ_self n) cs).bind fun found hfound ↦ ?_
          exact gives_pure.2 (List.forall_mem_cons.2 ⟨hfound, hfields⟩)
        · exact ⟨stored_canonical_object fun field hfield ↦ (hfound field (List.mem_reverse.1 hfield)).1,
            depth_canonical_object_le fun field hfield ↦ (hfound field (List.mem_reverse.1 hfield)).2⟩
      · exact gives_stopAtNext _ _
    · split
      · exact (readNumber_yields _).map fun found hfound ↦ (Stored.number hfound).keeps (Nat.zero_le _)
      · exact gives_stopAtNext _ _

/-! ## Values of one kind -/

section kinds

variable {α σ β : Type} {P : α → Prop}

theorem gives_wrongKind (expected : String) (cs : List Char) : Gives P (wrongKind expected cs) := by
  unfold wrongKind
  repeat' split
  all_goals first
    | exact gives_stop _ _
    | exact gives_stopAtNext _ _
    | exact (gives_true _).bind fun _ _ ↦ gives_stop _ _

theorem readNatural_yields (bound : Nat) (kind : String) :
    Yields (· ≤ bound) (readNatural bound kind) := by
  intro cs
  unfold readNatural
  split
  · exact gives_stop _ _
  · split
    · refine (gives_true _).bind fun found _ ↦ ?_
      obtain ⟨value, rest⟩ := found
      cases value with
      | int n =>
        dsimp only
        split
        · next hn =>
          simp only [Bool.and_eq_true, decide_eq_true_eq] at hn
          exact gives_pure.2 (Int.toNat_le.2 hn.2)
        · exact gives_stop _ _
      | float bits => exact gives_stop _ _
    · exact gives_wrongKind _ _

/-- The items of an array are read one level further in. -/
theorem readList_yields {nesting : Nat} {item : Nat → Reader α} (h : Yields P (item nesting)) :
    Yields (fun values ↦ ∀ value ∈ values, P value) (readList (nesting + 1) item) := by
  intro cs
  unfold readList
  split
  · split
    · next n hn =>
      obtain rfl : nesting = n + 1 := Nat.succ.inj hn
      exact readItems_yields h _ true _
    · exact gives_stopAtNext _ _
  · exact gives_wrongKind _ _

end kinds

/-! ## Records -/

section records

variable {σ α β : Type} {P : β → Prop} {Q : σ → Prop} {nesting : Nat} {gathered : σ}

/-- What a slot makes of what has been gathered, when it keeps the property. -/
def Slot.Keeps (Q : σ → Prop) (nesting : Nat) (slot : Slot σ) : Prop :=
  ∀ gathered, Q gathered → Yields Q (slot.read nesting gathered)

theorem keeps_slot (name : String) {get : σ → Option β} {put : β → σ → σ} {reader : Nat → Reader β}
    (h : Yields P (reader nesting))
    (hput : ∀ value gathered, P value → Q gathered → Q (put value gathered)) :
    (slot name get put reader).Keeps Q nesting :=
  fun gathered hgathered cs ↦ (h cs).map fun _ hfound ↦ hput _ gathered hfound hgathered

variable {record : Record σ α}

theorem readField_yields (h : ∀ slot ∈ record.slots, slot.Keeps Q nesting) (name : String)
    (hgathered : Q gathered) : Yields Q (record.readField nesting gathered name) := by
  intro cs
  unfold Record.readField
  split
  · next slot hslot =>
    split
    · exact gives_stop _ _
    · exact (gives_true _).bind fun cs _ ↦ h slot (List.mem_of_find?_eq_some hslot) gathered hgathered cs
  · exact (gives_true _).bind fun _ _ ↦ (gives_true _).bind fun _ _ ↦ gives_pure.2 hgathered

theorem readSlots_yields {slots : List (Slot σ)} (h : ∀ slot ∈ slots, slot.Keeps Q nesting) (first : Bool)
    (hgathered : Q gathered) : Yields Q (Record.readSlots nesting slots first gathered) := by
  induction slots generalizing first gathered with
  | nil =>
    intro cs
    rw [Record.readSlots]
    split
    · exact gives_stop _ _
    · exact gives_ok.2 hgathered
    · split <;> exact gives_stopAtNext _ _
    · exact gives_stopAtNext _ _
  | cons slot slots ih =>
    obtain ⟨hslot, hslots⟩ := List.forall_mem_cons.1 h
    intro cs
    have hnext : Yields Q fun cs ↦ slot.read nesting gathered cs >>= fun found ↦
        Record.readSlots nesting slots false found.1 found.2 :=
      fun cs ↦ (hslot gathered hgathered cs).bind fun found hfound ↦ ih hslots false hfound found.2
    rw [Record.readSlots]
    split
    · exact gives_stop _ _
    · exact gives_ok.2 hgathered
    · -- whatever stands in front of the value
      dsimp only
      repeat' split
      all_goals exact (gives_true _).bind fun cs _ ↦ hnext cs

/-- What a record makes of the end of what has been gathered. -/
theorem gives_finish {R : α → Prop} (hgathered : Q gathered)
    (hfinish : ∀ gathered value, Q gathered → record.finish gathered = .ok value → R value)
    (rest : List Char) (complaint : String → Cause) :
    Gives (R ·.1) (match record.finish gathered with
      | .ok value => pure (value, rest)
      | .error name => stop (complaint name) rest) := by
  split
  · next value hvalue => exact gives_pure.2 (hfinish _ _ hgathered hvalue)
  · exact gives_stop _ _

/-- **A record in either form** has the property that its end has, if all slots keep what it needs. -/
theorem read_yields {R : α → Prop} (hempty : Q record.empty)
    (h : ∀ slot ∈ record.slots, slot.Keeps Q nesting)
    (hfinish : ∀ gathered value, Q gathered → record.finish gathered = .ok value → R value) :
    Yields R (record.read (nesting + 1)) := by
  intro cs
  unfold Record.read
  split
  · split
    · next n hn =>
      obtain rfl : nesting = n + 1 := Nat.succ.inj hn
      exact (readFields_yields (fun _ name ↦ readField_yields h name) _ true hempty _).bind
        fun found hfound ↦ gives_finish hfound hfinish found.2 _
    · exact gives_stopAtNext _ _
  · split
    · next n hn =>
      obtain rfl : nesting = n + 1 := Nat.succ.inj hn
      exact (readSlots_yields h true hempty _).bind fun found hfound ↦
        gives_finish hfound hfinish found.2 _
    · exact gives_stopAtNext _ _
  · exact gives_wrongKind _ _

end records

/-- What a text holds has the property that the reader yields. -/
theorem decodeWith_yields {α : Type} {P : α → Prop} {reader : Reader α} (h : Yields P reader)
    {text : List Char} {value : α} (hdecode : decodeWith reader text = .ok value) : P value := by
  have hread := h text
  rw [decodeWith] at hdecode
  cases hfound : reader text with
  | error e =>
    rw [hfound] at hdecode
    cases hdecode
  | ok found =>
    rw [hfound] at hdecode hread
    dsimp only at hdecode
    split at hdecode
    · cases hdecode
      exact hread found rfl
    · cases hdecode

end LogSearch.Json

import Intake.Field.Reader
import Intake.Field.Wire

/-!
# Reading back what was written

An attribute is written as an entry under its written name, or not at all. Main statements: several
readings together read something when each of them does, so that a declaration is known by what its
attributes were read from; and an attribute is read back from the entries that hold what was written
of it, if no name stands twice and its plain name
is no other one's written name.
-/

namespace Intake

namespace Reading

variable {α β : Type}

/-- Something is read, and it is as a condition asks. -/
def Gives (r : Reading α) (post : α → Prop) : Prop := ∃ x, r = .read x ∧ post x

/-- What follows from anything that was read as a condition asks follows. -/
theorem Gives.elim {r : Reading α} {post : α → Prop} {q : Prop} (h : r.Gives post)
    (k : ∀ x, r = .read x → post x → q) : q := by
  obtain ⟨x, hr, hx⟩ := h
  exact k x hr hx

theorem eq_read_iff {r : Reading α} {x : α} : r = .read x ↔ r.Gives (· = x) := by
  simp [Gives]

@[simp] theorem gives_map (f : α → β) (r : Reading α) (post : β → Prop) :
    (f <$> r).Gives post ↔ r.Gives fun x => post (f x) := by
  cases r with
  | read x => simp [Gives, Functor.map, map]
  | faults found => simp [Gives, Functor.map, map]

/-- Two readings together give what a condition asks, if the second does after the first. -/
@[simp] theorem gives_seq (f : Reading (α → β)) (a : Reading α) (post : β → Prop) :
    (f <*> a).Gives post ↔ f.Gives fun g => a.Gives fun x => post (g x) := by
  change (∃ y, f.ap a = .read y ∧ post y) ↔ _
  simp only [ap_eq_read, Gives]
  constructor
  · rintro ⟨_, ⟨g, x, hf, ha, rfl⟩, hpost⟩
    exact ⟨g, hf, x, ha, hpost⟩
  · rintro ⟨g, hf, x, ha, hpost⟩
    exact ⟨g x, ⟨g, x, hf, ha, rfl⟩, hpost⟩

@[simp] theorem under_eq_read {r : Reading α} {segment : PathSegment} {x : α} :
    r.under segment = .read x ↔ r = .read x := by
  cases r <;> simp [under]

@[simp] theorem map_eq_read {f : α → β} {r : Reading α} {y : β} :
    r.map f = .read y ↔ ∃ x, r = .read x ∧ f x = y := by
  cases r <;> simp [map]

/-- Readings in order read the items of a list, if each reads its own. -/
theorem sequence_eq_read {rs : List (Reading α)} {xs : List α} :
    sequence rs = .read xs ↔ rs = xs.map .read := by
  induction rs generalizing xs with
  | nil => cases xs <;> simp [sequence]
  | cons r rest ih =>
    rw [sequence, ap_eq_read]
    cases xs with
    | nil =>
      refine iff_of_false ?_ (List.cons_ne_nil _ _)
      rintro ⟨_, xs', hf, -, heq⟩
      obtain ⟨x', -, rfl⟩ := map_eq_read.mp hf
      cases heq
    | cons x xs =>
      rw [List.map_cons, List.cons.injEq, ← ih]
      constructor
      · rintro ⟨_, xs', hf, hrest, heq⟩
        obtain ⟨x', rfl, rfl⟩ := map_eq_read.mp hf
        cases heq
        exact ⟨rfl, hrest⟩
      · rintro ⟨rfl, hrest⟩
        exact ⟨_, xs, rfl, hrest, rfl⟩

end Reading

open Reading

/-- What an attribute is written as, if it is declared. -/
def Slot.written? {α : Type} (write : α → Value) : Slot α → Option Value
  | .undeclared => none
  | .null => some .null
  | .of x => some (write x)

/-- The entries of a record of which each part is there or not. -/
def entriesOf (parts : List (String × Option Value)) : List (String × Value) :=
  parts.filterMap fun part => part.2.map (part.1, ·)

section Entries

variable {α : Type}

theorem entriesOf_append (parts others : List (String × Option Value)) :
    entriesOf (parts ++ others) = entriesOf parts ++ entriesOf others :=
  List.filterMap_append

theorem entriesOf_singleton (name : String) (v : Value) : entriesOf [(name, some v)] = [(name, v)] :=
  rfl

theorem Slot.entry_eq (name : String) (write : α → Value) (s : Slot α) :
    s.entry name write = entriesOf [(name, s.written? write)] := by
  cases s <;> rfl

theorem entryOf_eq (name : String) (write : α → Value) (o : Option α) :
    entryOf name write o = entriesOf [(name, o.map write)] := by
  cases o <;> rfl

/-- Under the name of a part stands the part, if no name stands twice. -/
theorem lookup_entriesOf {parts : List (String × Option Value)}
    (hnames : (parts.map Prod.fst).Nodup) (key : String) :
    (entriesOf parts).lookup key = (parts.lookup key).join := by
  induction parts with
  | nil => rfl
  | cons part rest ih =>
    obtain ⟨name, o⟩ := part
    obtain ⟨hnot, hrest⟩ := List.nodup_cons.mp hnames
    have hcons : entriesOf ((name, o) :: rest) = (o.map (name, ·)).toList ++ entriesOf rest := by
      cases o <;> rfl
    have hlookup : (entriesOf ((name, o) :: rest)).lookup key =
        (if key = name then o else none).or ((entriesOf rest).lookup key) := by
      rw [hcons, List.lookup_append]
      cases o <;> by_cases hkey : key = name <;> simp [List.lookup_cons, hkey, beq_false_of_ne]
    rw [hlookup, ih hrest, List.lookup_cons]
    by_cases hkey : key = name
    · subst hkey
      have hnone : rest.lookup key = none :=
        List.lookup_eq_none_iff.mpr fun part hm => bne_iff_ne.mpr fun heq =>
          hnot (List.mem_map.mpr ⟨part, hm, heq.symm⟩)
      simp [hnone]
    · simp [hkey, beq_false_of_ne]

end Entries

/-- A reader takes what is written of a value, which is never null, back to the value. -/
structure Rereads {α : Type} (reader : Reader α) (write : α → Value) (x : α) : Prop where
  /-- The value is read back. -/
  read : reader (write x) = .read x
  /-- What is written is not null. -/
  shown : write x ≠ .null

namespace Rereads

theorem text (s : String) : Rereads Reader.text .text s := ⟨rfl, Value.noConfusion⟩

theorem bool (b : Bool) : Rereads Reader.bool .bool b := ⟨rfl, Value.noConfusion⟩

theorem int (n : Int) : Rereads Reader.int .int n := ⟨Reader.int_int n, Value.noConfusion⟩

theorem float (x : Binary64) : Rereads Reader.float .float x := ⟨rfl, Value.noConfusion⟩

/-- A choice that is found by its name is read back from its name. -/
theorem choice {α : Type} {name : α → String} {ofName? : String → Option α}
    (hname : ∀ a, ofName? (name a) = some a) (a : α) :
    Rereads (Reader.choice ofName?) (fun a => .text (name a)) a where
  read := by simp [Reader.choice, hname]
  shown := Value.noConfusion

/-- A list is read back, if its items are. -/
theorem list {α : Type} {reader : Reader α} {write : α → Value} {xs : List α}
    (h : ∀ x ∈ xs, reader (write x) = .read x) :
    Rereads (Reader.list reader) (fun xs => .list (xs.map write)) xs where
  read := by
    have hitems (i : Nat) : Reader.itemsFrom reader i (xs.map write) = xs.map .read := by
      induction xs generalizing i with
      | nil => rfl
      | cons x rest ih =>
        rw [List.map_cons, Reader.itemsFrom, h x List.mem_cons_self,
          ih (fun y hy => h y (List.mem_cons_of_mem _ hy)), List.map_cons, Reading.under]
    exact sequence_eq_read.mpr (hitems 0)
  shown := Value.noConfusion

theorem texts (names : List String) : Rereads (Reader.list Reader.text) .texts names :=
  list fun name _ => (text name).read

theorem values (vs : List Value) :
    Rereads (Reader.list Reader.any) (fun vs => .list (vs.map id)) vs :=
  list fun _ _ => rfl

theorem anyRecord (entries : List (String × Value)) :
    Rereads Reader.anyRecord
      (fun entries => .record (entries.map fun (key, value) => (key, id value))) entries where
  read := congrArg Reading.read (List.map_id entries)
  shown := Value.noConfusion

end Rereads

/-- Values by name are read from what is read under each name. -/
theorem Reader.record_eq_read {α : Type} {reader : Reader α} {entries : List (String × Value)}
    {fields : List (String × α)} :
    Reader.record reader (.record entries) = .read fields ↔
      entries.map (fun entry => (reader entry.2).map (entry.1, ·)) = fields.map .read := by
  rw [Reader.record, sequence_eq_read]
  induction entries generalizing fields with
  | nil => simp
  | cons entry rest ih =>
    cases fields with
    | nil => simp
    | cons field fields =>
      simp only [List.map_cons, List.cons.injEq, under_eq_read, ih]

/-- What was read of values by name was read of a value each. -/
theorem Reader.exists_of_record {α : Type} {reader : Reader α} {v : Value}
    {fields : List (String × α)} (h : Reader.record reader v = .read fields) {name : String} {x : α}
    (hm : (name, x) ∈ fields) : ∃ value, reader value = .read x := by
  cases v with
  | record entries =>
    rw [record_eq_read] at h
    have hread : Reading.read (name, x) ∈ entries.map fun entry =>
        (reader entry.2).map (entry.1, ·) := h ▸ List.mem_map_of_mem hm
    obtain ⟨entry, -, heq⟩ := List.mem_map.mp hread
    obtain ⟨x', hx', hpair⟩ := map_eq_read.mp heq
    cases hpair
    exact ⟨entry.2, hx'⟩
  | _ => cases h

/-- What was read of an attribute was read of a value. -/
theorem exists_of_readSlot {α : Type} {reader : Reader α} {written plain : String}
    {entries : List (String × Value)} {x : α}
    (h : readSlot written plain reader entries = .read (.of x)) : ∃ v, reader v = .read x := by
  unfold readSlot at h
  split at h
  · cases h
  · cases h
  · rename_i key v _ _
    obtain ⟨x', hx', heq⟩ := map_eq_read.mp (under_eq_read.mp h)
    cases heq
    exact ⟨v, hx'⟩

/-- What was read of an attribute that may be left out was read of a value. -/
theorem exists_of_readOption {α : Type} {reader : Reader α} {written plain : String}
    {entries : List (String × Value)} {x : α}
    (h : readOption written plain reader entries = .read (some x)) : ∃ v, reader v = .read x := by
  unfold readOption at h
  split at h
  · cases h
  · rename_i key v _
    obtain ⟨x', hx', heq⟩ := map_eq_read.mp (under_eq_read.mp h)
    cases heq
    exact ⟨v, hx'⟩

section Attributes

variable {α : Type} {reader : Reader α} {write : α → Value} {written plain : String}
  {parts : List (String × Option Value)} (hnames : (parts.map Prod.fst).Nodup)
include hnames

/-- An attribute is found under its written name, if it is there. -/
theorem findAttribute_entriesOf {o : Option Value} (h : parts.lookup written = some o)
    (hplain : plain = written ∨ parts.lookup plain = none) :
    findAttribute written plain (entriesOf parts) = o.map (written, ·) := by
  have hwritten : (entriesOf parts).lookup written = o := by
    rw [lookup_entriesOf hnames, h, Option.join_some]
  rw [findAttribute, hwritten]
  cases o with
  | some v => rfl
  | none =>
    have hother : (entriesOf parts).lookup plain = none := by
      rcases hplain with rfl | hplain
      · exact hwritten
      · rw [lookup_entriesOf hnames, hplain, Option.join_none]
    rw [hother, Option.map_none, Option.map_none]

/-- An attribute that must be there is read back. -/
theorem readNeeded_entriesOf {x : α} (h : parts.lookup written = some (some (write x)))
    (hplain : plain = written ∨ parts.lookup plain = none) (hback : Rereads reader write x) :
    readNeeded written plain reader (entriesOf parts) = .read x := by
  rw [readNeeded, findAttribute_entriesOf hnames h hplain]
  exact under_eq_read.mpr hback.read

/-- An attribute that may be left out is read back. -/
theorem readOption_entriesOf {o : Option α} (h : parts.lookup written = some (o.map write))
    (hplain : plain = written ∨ parts.lookup plain = none)
    (hback : ∀ x, o = some x → reader (write x) = .read x) :
    readOption written plain reader (entriesOf parts) = .read o := by
  rw [readOption, findAttribute_entriesOf hnames h hplain]
  cases o with
  | none => rfl
  | some x => exact under_eq_read.mpr (map_eq_read.mpr ⟨x, hback x rfl, rfl⟩)

/-- An attribute that may be left out or null is read back. -/
theorem readSlot_entriesOf {s : Slot α} (h : parts.lookup written = some (s.written? write))
    (hplain : plain = written ∨ parts.lookup plain = none)
    (hback : ∀ x, s = .of x → Rereads reader write x) :
    readSlot written plain reader (entriesOf parts) = .read s := by
  rw [readSlot, findAttribute_entriesOf hnames h hplain]
  cases s with
  | undeclared => rfl
  | null => rfl
  | of x =>
    obtain ⟨hread, hshown⟩ := hback x rfl
    have hof : ((reader (write x)).map Slot.of).under (.key written) = .read (.of x) :=
      under_eq_read.mpr (map_eq_read.mpr ⟨x, hread, rfl⟩)
    simpa only [Slot.written?, Option.map_some, hshown] using hof

end Attributes

end Intake

import SlideDeck.Proofs.Result
import SlideDeck.Proofs.Schema.Record
import SlideDeck.Proofs.Yaml.BareName

/-!
Contract: how the entries of a mapping come together to a record.

An entry either belongs to no field and is passed over, or it fills in its field, which must not
come before. So whether a record is read, and which, does not depend on the order of the entries
if the fields can be filled in in any order.

Owns:
- `Commute`, fields that can be filled in in any order;
- `assemble`, the record that entries under texts give, if any;
- what leaves it alone, and the failure for a field that comes twice.

Does not own: the fields of single records.
-/

namespace SlideDeck.Schema

open SlideDeck.Yaml (Value)
open SlideDeck.Yaml.Value (keyed)

variable {α β γ : Type}

/-! ### Fields in any order -/

/-- Two fields give the same record, or none, whichever is filled in first. -/
def Commute (first second : Field α) : Prop :=
  ∀ firstValue secondValue record,
    (first.read firstValue record >>= second.read secondValue).toOption =
      (second.read secondValue record >>= first.read firstValue).toOption

theorem Commute.symm {first second : Field α} (commute : Commute first second) :
    Commute second first :=
  fun secondValue firstValue record => (commute firstValue secondValue record).symm

theorem commute_of_name_ne {fields : List (Field α)} (commute : fields.Pairwise Commute)
    {first second : Field α} (firstMember : first ∈ fields) (secondMember : second ∈ fields)
    (different : first.name ≠ second.name) : Commute first second := by
  have symmetric : Std.Symm (Commute (α := α)) := ⟨fun _ _ => Commute.symm⟩
  refine commute.forall firstMember secondMember ?_
  rintro rfl
  exact different rfl

theorem toOption_field {keys : List String} {read : Reader β} {put : β → α → α} (value : Value)
    (record : α) :
    ((Field.of keys read put).read value record).toOption =
      (read value).toOption.map (put · record) :=
  Result.toOption_map _ _

/-- Fields commute if what they put into a record does. -/
theorem Commute.of {firstKeys secondKeys : List String} {firstRead : Reader β}
    {secondRead : Reader γ} {firstPut : β → α → α} {secondPut : γ → α → α}
    (puts : ∀ first second record,
      secondPut second (firstPut first record) = firstPut first (secondPut second record)) :
    Commute (.of firstKeys firstRead firstPut) (.of secondKeys secondRead secondPut) := by
  intro firstValue secondValue record
  rw [Result.toOption_bind, Result.toOption_bind]
  simp only [toOption_field]
  cases (firstRead firstValue).toOption with
  | none => cases (secondRead secondValue).toOption <;> rfl
  | some first =>
      cases (secondRead secondValue).toOption with
      | none => rfl
      | some second => exact congrArg some (puts first second record)

/-! ### Assembling a record -/

/-- The record that entries give behind the fields `seen`, if any. -/
def assemble (fields : List (Field α)) (seen : List String) (record : α)
    (entries : List (String × Value)) : Option α :=
  (readEntries fields seen record (keyed entries)).toOption

/-- The field to which a key belongs. -/
def fieldOf (fields : List (Field α)) (key : String) : Option (Field α) :=
  fields.find? (·.keys.contains key)

variable {fields : List (Field α)} {seen : List String} {record : α}
  {entries others : List (String × Value)} {entry : String × Value} {field : Field α}

theorem readEntries_cons_unknown (unknown : fieldOf fields entry.1 = none) :
    readEntries fields seen record (keyed (entry :: entries)) =
      readEntries fields seen record (keyed entries) := by
  unfold fieldOf at unknown
  have key : fieldKey (.string entry.1) = .ok entry.1 := rfl
  rw [Value.keyed_cons, readEntries, key, ok_bind, unknown]

theorem readEntries_cons_known (known : fieldOf fields entry.1 = some field) :
    readEntries fields seen record (keyed (entry :: entries)) =
      if field.name ∈ seen then .error (.duplicateField field.name)
      else field.read entry.2 record >>= fun next =>
        readEntries fields (field.name :: seen) next (keyed entries) := by
  unfold fieldOf at known
  have key : fieldKey (.string entry.1) = .ok entry.1 := rfl
  rw [Value.keyed_cons, readEntries, key, ok_bind, known]
  simp only [List.contains_iff_mem]

theorem assemble_cons_unknown (unknown : fieldOf fields entry.1 = none) :
    assemble fields seen record (entry :: entries) = assemble fields seen record entries :=
  congrArg Except.toOption (readEntries_cons_unknown unknown)

theorem assemble_cons_known (known : fieldOf fields entry.1 = some field) :
    assemble fields seen record (entry :: entries) =
      if field.name ∈ seen then none
      else (field.read entry.2 record).toOption.bind
        (assemble fields (field.name :: seen) · entries) := by
  rw [assemble, readEntries_cons_known known]
  split
  · rfl
  · exact Result.toOption_bind _ _

/-- Of the fields that came before only which they are matters. -/
theorem assemble_seen {otherSeen : List String} (same : ∀ name, name ∈ seen ↔ name ∈ otherSeen) :
    assemble fields seen record entries = assemble fields otherSeen record entries := by
  induction entries generalizing seen otherSeen record with
  | nil => rfl
  | cons entry entries inductionHypothesis =>
      cases known : fieldOf fields entry.1 with
      | none =>
          rw [assemble_cons_unknown known, assemble_cons_unknown known]
          exact inductionHypothesis same
      | some field =>
          rw [assemble_cons_known known, assemble_cons_known known]
          simp only [same]
          congr 2
          funext next
          apply inductionHypothesis
          intro name
          rw [List.mem_cons, List.mem_cons, same]

/-- What leaves the rest of the entries alone leaves all of them alone. -/
theorem assemble_cons_congr
    (same : ∀ seen record, assemble fields seen record entries = assemble fields seen record others)
    (seen : List String) (record : α) :
    assemble fields seen record (entry :: entries) =
      assemble fields seen record (entry :: others) := by
  cases known : fieldOf fields entry.1 with
  | none => rw [assemble_cons_unknown known, assemble_cons_unknown known, same]
  | some field =>
      rw [assemble_cons_known known, assemble_cons_known known]
      simp only [same]

theorem assemble_append_congr {front : List (String × Value)}
    (same : ∀ seen record, assemble fields seen record entries = assemble fields seen record others)
    (seen : List String) (record : α) :
    assemble fields seen record (front ++ entries) =
      assemble fields seen record (front ++ others) := by
  induction front generalizing seen record with
  | nil => exact same seen record
  | cons entry front inductionHypothesis =>
      exact assemble_cons_congr inductionHypothesis seen record

/-! ### What does not matter -/

/-- Two entries of different fields, neither of which came before. -/
theorem assemble_cons_cons {first second : String × Value} {firstField secondField : Field α}
    (firstKnown : fieldOf fields first.1 = some firstField)
    (secondKnown : fieldOf fields second.1 = some secondField)
    (different : secondField.name ≠ firstField.name) (firstUnseen : firstField.name ∉ seen)
    (secondUnseen : secondField.name ∉ seen) :
    assemble fields seen record (first :: second :: entries) =
      (firstField.read first.2 record >>= secondField.read second.2).toOption.bind
        (assemble fields (secondField.name :: firstField.name :: seen) · entries) := by
  rw [assemble_cons_known firstKnown, if_neg firstUnseen, Result.toOption_bind, Option.bind_assoc]
  congr 1
  funext next
  rw [assemble_cons_known secondKnown, if_neg (List.not_mem_cons_of_ne_of_not_mem different
    secondUnseen)]

theorem assemble_cons_eq_none
    (fails : ∀ seen record, assemble fields seen record entries = none) (seen : List String)
    (record : α) : assemble fields seen record (entry :: entries) = none := by
  cases known : fieldOf fields entry.1 with
  | none => rw [assemble_cons_unknown known, fails]
  | some field =>
      rw [assemble_cons_known known]
      simp [fails]

theorem assemble_eq_none_of_seen (member : entry ∈ entries)
    (known : fieldOf fields entry.1 = some field) (before : field.name ∈ seen) :
    assemble fields seen record entries = none := by
  induction entries generalizing seen record with
  | nil => simp at member
  | cons first entries inductionHypothesis =>
      rcases List.mem_cons.mp member with rfl | member
      · rw [assemble_cons_known known, if_pos before]
      cases firstKnown : fieldOf fields first.1 with
      | none =>
          rw [assemble_cons_unknown firstKnown]
          exact inductionHypothesis member before
      | some firstField =>
          rw [assemble_cons_known firstKnown]
          have again : ∀ next, assemble fields (firstField.name :: seen) next entries = none :=
            fun next => inductionHypothesis member (List.mem_cons_of_mem _ before)
          simp [again]

/-- A field that comes twice fails. -/
theorem assemble_eq_none_of_twice {first second : String × Value}
    {firstField secondField : Field α}
    (firstKnown : fieldOf fields first.1 = some firstField)
    (secondKnown : fieldOf fields second.1 = some secondField)
    (twice : firstField.name = secondField.name) (member : second ∈ entries) :
    assemble fields seen record (first :: entries) = none := by
  rw [assemble_cons_known firstKnown]
  have again : ∀ next, assemble fields (firstField.name :: seen) next entries = none := by
    intro next
    apply assemble_eq_none_of_seen member secondKnown
    rw [twice]
    exact List.mem_cons_self
  simp [again]

theorem assemble_swap (commute : fields.Pairwise Commute) (first second : String × Value)
    (seen : List String) (record : α) :
    assemble fields seen record (first :: second :: entries) =
      assemble fields seen record (second :: first :: entries) := by
  cases firstKnown : fieldOf fields first.1 with
  | none =>
      rw [assemble_cons_unknown firstKnown]
      exact assemble_cons_congr (fun _ _ => (assemble_cons_unknown firstKnown).symm) seen record
  | some firstField =>
      cases secondKnown : fieldOf fields second.1 with
      | none =>
          rw [assemble_cons_unknown secondKnown]
          exact assemble_cons_congr (fun _ _ => assemble_cons_unknown secondKnown) seen record
      | some secondField =>
          have firstMember : first ∈ first :: second :: entries := List.mem_cons_self
          have secondMember : second ∈ second :: first :: entries := List.mem_cons_self
          by_cases twice : firstField.name = secondField.name
          · rw [assemble_eq_none_of_twice firstKnown secondKnown twice List.mem_cons_self,
              assemble_eq_none_of_twice secondKnown firstKnown twice.symm List.mem_cons_self]
          by_cases firstBefore : firstField.name ∈ seen
          · rw [assemble_eq_none_of_seen firstMember firstKnown firstBefore,
              assemble_eq_none_of_seen (List.mem_cons_of_mem _ List.mem_cons_self) firstKnown
                firstBefore]
          by_cases secondBefore : secondField.name ∈ seen
          · rw [assemble_eq_none_of_seen secondMember secondKnown secondBefore,
              assemble_eq_none_of_seen (List.mem_cons_of_mem _ List.mem_cons_self) secondKnown
                secondBefore]
          · have both := commute_of_name_ne commute (List.mem_of_find?_eq_some firstKnown)
              (List.mem_of_find?_eq_some secondKnown) twice
            rw [assemble_cons_cons firstKnown secondKnown (Ne.symm twice) firstBefore secondBefore,
              assemble_cons_cons secondKnown firstKnown twice secondBefore firstBefore, both]
            congr 1
            funext next
            apply assemble_seen
            intro name
            simp only [List.mem_cons]
            exact or_left_comm

/-- **The order of entries does not matter** if the fields can be filled in in any order. -/
theorem assemble_perm (commute : fields.Pairwise Commute) (perm : entries.Perm others)
    (seen : List String) (record : α) :
    assemble fields seen record entries = assemble fields seen record others := by
  induction perm generalizing seen record with
  | nil => rfl
  | cons _ _ inductionHypothesis => exact assemble_cons_congr inductionHypothesis seen record
  | swap first second _ => exact assemble_swap commute second first seen record
  | trans _ _ firstSame secondSame => exact (firstSame seen record).trans (secondSame seen record)

variable {front back : List (String × Value)} {key : String} {value : Value}

theorem assemble_insert (unknown : fieldOf fields key = none) (seen : List String) (record : α) :
    assemble fields seen record (front ++ (key, value) :: back) =
      assemble fields seen record (front ++ back) :=
  assemble_append_congr (fun _ _ => assemble_cons_unknown unknown) seen record

/-- Keys of one field, and keys of none, may stand for each other. -/
theorem assemble_respell {other : String} (same : fieldOf fields key = fieldOf fields other)
    (seen : List String) (record : α) :
    assemble fields seen record (front ++ (key, value) :: back) =
      assemble fields seen record (front ++ (other, value) :: back) := by
  refine assemble_append_congr ?_ seen record
  intro seen record
  cases known : fieldOf fields other with
  | none => rw [assemble_cons_unknown (same.trans known), assemble_cons_unknown known]
  | some field => rw [assemble_cons_known (same.trans known), assemble_cons_known known]

/-- **Two entries of one field fail**, wherever they stand. -/
theorem assemble_eq_none_of_both {first second : String × Value} (firstMember : first ∈ entries)
    (secondMember : second ∈ entries) (different : first.1 ≠ second.1)
    (firstKnown : fieldOf fields first.1 = some field)
    (secondKnown : fieldOf fields second.1 = some field) (seen : List String) (record : α) :
    assemble fields seen record entries = none := by
  induction entries generalizing seen record with
  | nil => simp at firstMember
  | cons entry entries inductionHypothesis =>
      rcases List.mem_cons.mp firstMember with rfl | firstLater <;>
        rcases List.mem_cons.mp secondMember with rfl | secondLater
      · exact absurd rfl different
      · exact assemble_eq_none_of_twice firstKnown secondKnown rfl secondLater
      · exact assemble_eq_none_of_twice secondKnown firstKnown rfl firstLater
      · exact assemble_cons_eq_none (inductionHypothesis firstLater secondLater) seen record

end SlideDeck.Schema

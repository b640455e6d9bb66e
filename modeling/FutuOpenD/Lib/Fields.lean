import FutuOpenD.Lib.Wire

/-!
# Types of fields

A `FieldType` reads and writes the payloads of one kind of field. Of a field that is not repeated the
last record counts (`last`), the records of a repeated one are its elements (`lens` for messages), and
the parts of an embedded message are put together (`parts`). The tag of a record tells whether a field
is concerned, so each of these changes with a record of its own tag only.
-/

namespace Wire
open Bytes

/-- The number of a field and the kind of its payload, as they stand before the payload. -/
def tagOf (rec : Record) : Nat := 8 * rec.number + rec.payload.wireType

/-- A type of fields: the kind of payload it has, and what a payload of this kind stands for. -/
structure FieldType (α : Type*) where
  wireType : Nat
  value : Payload → Option α
  payload : α → Payload
  wireType_lt : wireType < 8
  isSome_value : ∀ p, (value p).isSome ↔ p.wireType = wireType
  value_payload : ∀ x, value (payload x) = some x

namespace FieldType
variable {α : Type*} (t : FieldType α)

/-- The value of field `k`, of which the last record counts. -/
def last (k : Nat) (rs : List Record) : Option α :=
  (rs.filterMap fun rec => if rec.number = k then t.value rec.payload else none).getLast?

/-- Field `k`, if it has a value. -/
def records (k : Nat) (value : Option α) : List Record := value.toList.map fun x => ⟨k, t.payload x⟩

variable {t} {k : Nat} {rec : Record} {rs rs' : List Record}

theorem number_of_tag (h : tagOf rec = 8 * k + t.wireType) : rec.number = k ∧ rec.payload.wireType = t.wireType := by
  have hlt := rec.payload.wireType_lt
  have hlt' := t.wireType_lt
  rw [tagOf] at h
  omega

@[simp] theorem last_nil : t.last k [] = none := rfl

@[simp] theorem last_append : t.last k (rs ++ rs') = (t.last k rs').or (t.last k rs) := by
  rw [last, List.filterMap_append, List.getLast?_append]
  rfl

theorem last_singleton (h : rec.number = k) : t.last k [rec] = t.value rec.payload := by
  rw [last, List.filterMap_cons, if_pos h]
  cases t.value rec.payload with
  | none => rfl
  | some x => rfl

theorem last_singleton_of_ne (h : tagOf rec ≠ 8 * k + t.wireType) : t.last k [rec] = none := by
  by_cases hk : rec.number = k
  · rw [last_singleton hk, ← Option.not_isSome_iff_eq_none, t.isSome_value]
    intro hw
    exact h (by rw [tagOf, hk, hw])
  · rw [last, List.filterMap_cons, if_neg hk]
    rfl

@[simp] theorem last_records (value : Option α) : t.last k (t.records k value) = value := by
  cases value with
  | none => rfl
  | some x => exact (last_singleton rfl).trans (t.value_payload x)

/-- Other fields do not matter. -/
theorem last_filter (rs : List Record) : t.last k (rs.filter fun rec => rec.number = k) = t.last k rs := by
  rw [last, List.filterMap_filter]
  refine congrArg List.getLast? (List.filterMap_congr fun rec _ => ?_)
  by_cases h : rec.number = k
  · rw [if_pos (decide_eq_true h), if_pos h]
  · rw [if_neg (by rw [decide_eq_true_eq]; exact h), if_neg h]

theorem number_of_mem_records {value : Option α} (h : rec ∈ t.records k value) : rec.number = k := by
  obtain ⟨x, -, rfl⟩ := List.mem_map.1 h
  rfl

end FieldType

namespace Payload

def varint? : Payload → Option Nat
  | .varint n => some n
  | _ => none

def i64? : Payload → Option (Field 8)
  | .i64 bytes => some bytes
  | _ => none

def len? : Payload → Option (List UInt8)
  | .len bytes => some bytes
  | _ => none

variable {p : Payload} {n : Nat} {f : Field 8} {bytes : List UInt8}

theorem varint?_eq_some (h : p.varint? = some n) : p = .varint n := by
  cases p with
  | varint n => cases h; rfl
  | _ => cases h

theorem i64?_eq_some (h : p.i64? = some f) : p = .i64 f := by
  cases p with
  | i64 f => cases h; rfl
  | _ => cases h

theorem len?_eq_some (h : p.len? = some bytes) : p = .len bytes := by
  cases p with
  | len bytes => cases h; rfl
  | _ => cases h

theorem isSome_varint? (p : Payload) : p.varint?.isSome ↔ p.wireType = 0 := by
  cases p <;> simp [varint?, wireType]

theorem isSome_i64? (p : Payload) : p.i64?.isSome ↔ p.wireType = 1 := by
  cases p <;> simp [i64?, wireType]

theorem isSome_len? (p : Payload) : p.len?.isSome ↔ p.wireType = 2 := by
  cases p <;> simp [len?, wireType]

end Payload

namespace FieldType
variable {α : Type*}

def ofVarint (value : Nat → α) (payload : α → Nat) (h : ∀ x, value (payload x) = x) : FieldType α where
  wireType := 0
  value := fun p => p.varint?.map value
  payload := fun x => .varint (payload x)
  wireType_lt := Nat.zero_lt_succ 7
  isSome_value := fun p => Option.isSome_map.symm ▸ p.isSome_varint?
  value_payload := fun x => congrArg some (h x)

def ofI64 (value : Field 8 → α) (payload : α → Field 8) (h : ∀ x, value (payload x) = x) : FieldType α where
  wireType := 1
  value := fun p => p.i64?.map value
  payload := fun x => .i64 (payload x)
  wireType_lt := Nat.one_lt_succ_succ 6
  isSome_value := fun p => Option.isSome_map.symm ▸ p.isSome_i64?
  value_payload := fun x => congrArg some (h x)

def ofLen : FieldType (List UInt8) where
  wireType := 2
  value := Payload.len?
  payload := .len
  wireType_lt := Nat.succ_lt_succ (Nat.one_lt_succ_succ 5)
  isSome_value := Payload.isSome_len?
  value_payload := fun _ => rfl

end FieldType

/-- The records of the parts of an embedded message. -/
def parts (l : List (List UInt8)) : List Record := l.flatMap fun bytes => (decode bytes).getD []

section
variable {k : Nat} {rec : Record} {rs : List Record} {l l' : List (List UInt8)}

theorem parts_append : parts (l ++ l') = parts l ++ parts l' := List.flatMap_append

theorem parts_encode : parts [encode rs] = rs := by
  rw [parts, List.flatMap_singleton, decode_encode]
  rfl

theorem lens_singleton_of_ne (h : tagOf rec ≠ 8 * k + 2) : lens k [rec] = [] := by
  obtain ⟨number, payload⟩ := rec
  cases payload with
  | len bytes =>
    refine lens_cons_len.trans (if_neg fun hk => h ?_)
    rw [hk]
    rfl
  | _ => rfl

theorem lens_filter (rs : List Record) : lens k (rs.filter fun rec => rec.number = k) = lens k rs := by
  induction rs with
  | nil => rfl
  | cons rec rs ih =>
    have hcons : ∀ l, lens k (rec :: l) = lens k [rec] ++ lens k l := fun l => @lens_append k [rec] l
    by_cases h : rec.number = k
    · rw [List.filter_cons_of_pos (by simpa using h), hcons, ih, ← hcons]
    · have hnil : lens k [rec] = [] := by
        refine lens_singleton_of_ne fun htag => h ?_
        have hlt := rec.payload.wireType_lt
        rw [tagOf] at htag
        omega
      rw [List.filter_cons_of_neg (by simpa using h), ih, hcons, hnil, List.nil_append]

end
end Wire

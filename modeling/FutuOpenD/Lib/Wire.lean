import FutuOpenD.Lib.Bytes
import FutuOpenD.Lib.Framing
import Mathlib.Data.Nat.Log

/-!
# The wire format of Protocol Buffers

A message is a sequence of records, each a tag and a payload. The tag is a varint that holds a field
number and the kind of the payload. `cutRecord` takes one record off the front, so that a message is
read by `Framing`, and `decode_encode` says that every sequence of records is read back. Groups, which
nest, are left out.
-/

namespace Wire
open Bytes Framing

/-- Seven bits a byte, the lowest first; all bytes but the last have the high bit set. -/
def varint (n : Nat) : List UInt8 :=
  if n < 128 then [UInt8.ofNat n] else UInt8.ofNat (n % 128 + 128) :: varint (n / 128)
termination_by n
decreasing_by omega

def readVarint : List UInt8 → Option (Nat × List UInt8)
  | [] => none
  | b :: l => if b.toNat < 128 then some (b.toNat, l) else (readVarint l).map fun p => (b.toNat % 128 + 128 * p.1, p.2)

inductive Payload
  | varint (n : Nat)
  | i64 (bytes : Field 8)
  | len (bytes : List UInt8)
  | i32 (bytes : Field 4)
deriving DecidableEq

def Payload.wireType : Payload → Nat
  | .varint _ => 0
  | .i64 _ => 1
  | .len _ => 2
  | .i32 _ => 5

theorem Payload.wireType_lt (p : Payload) : p.wireType < 8 := by cases p <;> simp [wireType]

def Payload.encode : Payload → List UInt8
  | .varint n => Wire.varint n
  | .i64 bytes => bytes.1
  | .len bytes => Wire.varint bytes.length ++ bytes
  | .i32 bytes => bytes.1

structure Record where
  number : Nat
  payload : Payload
deriving DecidableEq

def tag (number wireType : Nat) : List UInt8 := varint (8 * number + wireType)

def Record.encode (r : Record) : List UInt8 := tag r.number r.payload.wireType ++ r.payload.encode

def encode (rs : List Record) : List UInt8 := rs.flatMap Record.encode

/-- The next `n` bytes. -/
def readBytes (n : Nat) (l : List UInt8) : Option (Field n × List UInt8) :=
  if h : n ≤ l.length then some (⟨l.take n, by rw [List.length_take, Nat.min_eq_left h]⟩, l.drop n) else none

def readPayload (wireType : Nat) (l : List UInt8) : Option (Payload × List UInt8) :=
  match wireType with
  | 0 => (readVarint l).map fun p => (.varint p.1, p.2)
  | 1 => (readBytes 8 l).map fun p => (.i64 p.1, p.2)
  | 2 => (readVarint l).bind fun p => (readBytes p.1 p.2).map fun q => (.len q.1.1, q.2)
  | 5 => (readBytes 4 l).map fun p => (.i32 p.1, p.2)
  | _ => none

def cutRecord (l : List UInt8) : Option (Record × List UInt8) :=
  (readVarint l).bind fun p => (readPayload (p.1 % 8) p.2).map fun q => (⟨p.1 / 8, q.1⟩, q.2)

section
variable {l m r : List UInt8} {n : Nat}

theorem readVarint_append (m : List UInt8) (h : readVarint l = some (n, r)) :
    readVarint (l ++ m) = some (n, r ++ m) := by
  induction l generalizing n with
  | nil => cases h
  | cons b l ih =>
    rw [List.cons_append, readVarint]
    rw [readVarint] at h
    by_cases hb : b.toNat < 128
    · rw [if_pos hb] at h ⊢
      cases h
      rfl
    · rw [if_neg hb] at h ⊢
      obtain ⟨p, hp, h⟩ := Option.map_eq_some_iff.1 h
      cases h
      rw [ih hp]
      rfl

theorem readVarint_shorter (h : readVarint l = some (n, r)) : r.length < l.length := by
  induction l generalizing n with
  | nil => cases h
  | cons b l ih =>
    rw [readVarint] at h
    by_cases hb : b.toNat < 128
    · rw [if_pos hb] at h
      cases h
      simp
    · rw [if_neg hb] at h
      obtain ⟨p, hp, h⟩ := Option.map_eq_some_iff.1 h
      cases h
      have hlt := ih hp
      rw [List.length_cons]
      omega

theorem readVarint_varint (n : Nat) (m : List UInt8) : readVarint (varint n ++ m) = some (n, m) := by
  induction n using varint.induct with
  | case1 n hn =>
    have hb : (UInt8.ofNat n).toNat = n := UInt8.toNat_ofNat_of_lt' (Nat.lt_trans hn (by decide))
    rw [varint, if_pos hn, List.singleton_append, readVarint, hb, if_pos hn]
  | case2 n hn ih =>
    have hlt : n % 128 + 128 < 256 := by omega
    have hb : (UInt8.ofNat (n % 128 + 128)).toNat = n % 128 + 128 := UInt8.toNat_ofNat_of_lt' hlt
    rw [varint, if_neg hn, List.cons_append, readVarint, hb, if_neg (by omega), ih, Option.map_some]
    congr 2
    omega

/-- One byte for every seven bits. -/
theorem length_varint (n : Nat) : (varint n).length = Nat.log 2 n / 7 + 1 := by
  induction n using varint.induct with
  | case1 n hn =>
    have hlog : Nat.log 2 n < 7 := Nat.log_lt_of_lt_pow' (by decide) hn
    rw [varint, if_pos hn, List.length_singleton]
    omega
  | case2 n hn ih =>
    have hlog : 7 ≤ Nat.log 2 n := Nat.le_log_of_pow_le (by decide) (Nat.le_of_not_lt hn)
    have hdiv := Nat.log_div_base_pow 2 n 7
    rw [varint, if_neg hn, List.length_cons, ih, show n / 128 = n / 2 ^ 7 from rfl, hdiv]
    omega

theorem readBytes_append (m : List UInt8) {f : Field n} (h : readBytes n l = some (f, r)) :
    readBytes n (l ++ m) = some (f, r ++ m) := by
  obtain ⟨hle, h⟩ := Option.dite_none_right_eq_some.1 h
  cases h
  rw [readBytes, dif_pos (by rw [List.length_append]; omega)]
  simp only [List.take_append_of_le_length hle, List.drop_append_of_le_length hle]

theorem readBytes_length {f : Field n} (h : readBytes n l = some (f, r)) : r.length ≤ l.length := by
  obtain ⟨hle, h⟩ := Option.dite_none_right_eq_some.1 h
  cases h
  rw [List.length_drop]
  omega

theorem readBytes_field (f : Field n) (m : List UInt8) : readBytes n (f.1 ++ m) = some (f, m) := by
  have hle : n ≤ (f.1 ++ m).length := by rw [List.length_append, f.2]; omega
  rw [readBytes, dif_pos hle]
  simp only [List.take_left' f.2, List.drop_left' f.2]

theorem readPayload_append (m : List UInt8) {p : Payload} (h : readPayload n l = some (p, r)) :
    readPayload n (l ++ m) = some (p, r ++ m) := by
  unfold readPayload at h ⊢
  split at h
  · obtain ⟨q, hq, h⟩ := Option.map_eq_some_iff.1 h
    cases h
    rw [readVarint_append m hq]
    rfl
  · obtain ⟨q, hq, h⟩ := Option.map_eq_some_iff.1 h
    cases h
    rw [readBytes_append m hq]
    rfl
  · obtain ⟨q, hq, h⟩ := Option.bind_eq_some_iff.1 h
    obtain ⟨s, hs, h⟩ := Option.map_eq_some_iff.1 h
    cases h
    rw [readVarint_append m hq, Option.bind_some, readBytes_append m hs]
    rfl
  · obtain ⟨q, hq, h⟩ := Option.map_eq_some_iff.1 h
    cases h
    rw [readBytes_append m hq]
    rfl
  · cases h

theorem readPayload_length {p : Payload} (h : readPayload n l = some (p, r)) : r.length ≤ l.length := by
  unfold readPayload at h
  split at h
  · obtain ⟨q, hq, h⟩ := Option.map_eq_some_iff.1 h
    cases h
    exact Nat.le_of_lt (readVarint_shorter hq)
  · obtain ⟨q, hq, h⟩ := Option.map_eq_some_iff.1 h
    cases h
    exact readBytes_length hq
  · obtain ⟨q, hq, h⟩ := Option.bind_eq_some_iff.1 h
    obtain ⟨s, hs, h⟩ := Option.map_eq_some_iff.1 h
    cases h
    exact (readBytes_length hs).trans (Nat.le_of_lt (readVarint_shorter hq))
  · obtain ⟨q, hq, h⟩ := Option.map_eq_some_iff.1 h
    cases h
    exact readBytes_length hq
  · cases h

theorem readPayload_encode (p : Payload) (m : List UInt8) :
    readPayload p.wireType (p.encode ++ m) = some (p, m) := by
  cases p with
  | varint n => exact congrArg (Option.map _) (readVarint_varint n m)
  | i64 bytes => exact congrArg (Option.map _) (readBytes_field bytes m)
  | len bytes =>
    show (readVarint ((varint bytes.length ++ bytes) ++ m)).bind _ = _
    rw [List.append_assoc, readVarint_varint, Option.bind_some]
    exact congrArg (Option.map _) (readBytes_field ⟨bytes, rfl⟩ m)
  | i32 bytes => exact congrArg (Option.map _) (readBytes_field bytes m)

theorem cutRecord_encode (rec : Record) (m : List UInt8) : cutRecord (rec.encode ++ m) = some (rec, m) := by
  have hlt := rec.payload.wireType_lt
  have hmod : (8 * rec.number + rec.payload.wireType) % 8 = rec.payload.wireType := by omega
  have hdiv : (8 * rec.number + rec.payload.wireType) / 8 = rec.number := by omega
  rw [cutRecord, Record.encode, tag, List.append_assoc, readVarint_varint, Option.bind_some, hmod,
    readPayload_encode, hdiv]
  rfl

end

/-- Reads a message record by record. -/
def records : StrictCutter UInt8 Record where
  cut := cutRecord
  stable := by
    intro l rec r m h
    obtain ⟨p, hp, h⟩ := Option.bind_eq_some_iff.1 h
    obtain ⟨q, hq, h⟩ := Option.map_eq_some_iff.1 h
    cases h
    rw [cutRecord, readVarint_append m hp, Option.bind_some, readPayload_append m hq]
    rfl
  shorter := by
    intro l rec r h
    obtain ⟨p, hp, h⟩ := Option.bind_eq_some_iff.1 h
    obtain ⟨q, hq, h⟩ := Option.map_eq_some_iff.1 h
    cases h
    exact Nat.lt_of_le_of_lt (readPayload_length hq) (readVarint_shorter hp)

/-- The records of a message; `none` when something is left that is no record. -/
def decode (l : List UInt8) : Option (List Record) :=
  if (records.parse l).2 = [] then some (records.parse l).1 else none

theorem drains_encode (rs : List Record) : records.Drains (encode rs) rs [] := by
  have h : records.Drains (rs.flatMap Record.encode ++ []) (rs.map id) [] :=
    Cutter.Drains.flatMap (fun rec _ m => cutRecord_encode rec m) rfl
  rwa [List.map_id, List.append_nil] at h

theorem decode_encode (rs : List Record) : decode (encode rs) = some rs := by
  obtain ⟨hos, hr⟩ := (records.parse_drains (encode rs)).det (drains_encode rs)
  rw [decode, if_pos hr, hos]

@[simp] theorem encode_append (rs rs' : List Record) : encode (rs ++ rs') = encode rs ++ encode rs' :=
  List.flatMap_append

@[simp] theorem encode_nil : encode [] = [] := rfl

theorem encode_cons (rec : Record) (rs : List Record) : encode (rec :: rs) = rec.encode ++ encode rs := rfl

theorem length_encode_cons (rec : Record) (rs : List Record) :
    (encode (rec :: rs)).length = rec.encode.length + (encode rs).length := by
  rw [encode_cons, List.length_append]

theorem length_tag {k wireType : Nat} (h : 8 * k + wireType < 128) : (tag k wireType).length = 1 := by
  rw [tag, varint, if_pos h]
  rfl

theorem length_encode_varint {k n : Nat} (hk : k < 16) (hn : n < 2 ^ 64) :
    (Record.encode ⟨k, .varint n⟩).length ≤ 11 := by
  have hlog : Nat.log 2 n < 64 := Nat.log_lt_of_lt_pow' (by decide) hn
  show (tag k 0 ++ varint n).length ≤ 11
  rw [List.length_append, length_tag (by omega), length_varint]
  omega

theorem length_encode_len {k : Nat} (hk : k < 15) {bytes : List UInt8} (hlen : bytes.length < 128) :
    (Record.encode ⟨k, .len bytes⟩).length = 2 + bytes.length := by
  show (tag k 2 ++ (varint bytes.length ++ bytes)).length = _
  rw [List.length_append, length_tag (by omega), varint, if_pos hlen, List.length_append]
  simp only [List.length_singleton]
  omega

/-- The varints of field `k`, in order. -/
def varints (k : Nat) (rs : List Record) : List Nat :=
  rs.filterMap fun
    | ⟨number, .varint n⟩ => if number = k then some n else none
    | _ => none

/-- The byte strings of field `k`, in order. -/
def lens (k : Nat) (rs : List Record) : List (List UInt8) :=
  rs.filterMap fun
    | ⟨number, .len bytes⟩ => if number = k then some bytes else none
    | _ => none

section
variable {α : Type*} {j k n : Nat} {bytes : List UInt8} {rs rs' : List Record} {l : List α}

@[simp] theorem varints_nil : varints k [] = [] := rfl

@[simp] theorem lens_nil : lens k [] = [] := rfl

@[simp] theorem varints_append : varints k (rs ++ rs') = varints k rs ++ varints k rs' := List.filterMap_append

@[simp] theorem lens_append : lens k (rs ++ rs') = lens k rs ++ lens k rs' := List.filterMap_append

@[simp] theorem varints_cons_varint :
    varints k (⟨j, .varint n⟩ :: rs) = if j = k then n :: varints k rs else varints k rs := by
  rw [varints, List.filterMap_cons]
  dsimp only
  split_ifs <;> rfl

@[simp] theorem varints_cons_len : varints k (⟨j, .len bytes⟩ :: rs) = varints k rs := rfl

@[simp] theorem varints_cons_i64 {bytes : Field 8} : varints k (⟨j, .i64 bytes⟩ :: rs) = varints k rs := rfl

@[simp] theorem varints_cons_i32 {bytes : Field 4} : varints k (⟨j, .i32 bytes⟩ :: rs) = varints k rs := rfl

@[simp] theorem lens_cons_i64 {bytes : Field 8} : lens k (⟨j, .i64 bytes⟩ :: rs) = lens k rs := rfl

@[simp] theorem lens_cons_i32 {bytes : Field 4} : lens k (⟨j, .i32 bytes⟩ :: rs) = lens k rs := rfl

@[simp] theorem lens_cons_len :
    lens k (⟨j, .len bytes⟩ :: rs) = if j = k then bytes :: lens k rs else lens k rs := by
  rw [lens, List.filterMap_cons]
  dsimp only
  split_ifs <;> rfl

@[simp] theorem lens_cons_varint : lens k (⟨j, .varint n⟩ :: rs) = lens k rs := rfl

@[simp] theorem varints_map_varint {g : α → Nat} :
    varints k (l.map fun x => ⟨j, .varint (g x)⟩) = if j = k then l.map g else [] := by
  induction l with
  | nil => split_ifs <;> rfl
  | cons x l ih =>
    rw [List.map_cons, varints_cons_varint, ih]
    split_ifs <;> rfl

@[simp] theorem varints_map_len {g : α → List UInt8} : varints k (l.map fun x => ⟨j, .len (g x)⟩) = [] := by
  induction l with
  | nil => rfl
  | cons x l ih => rw [List.map_cons, varints_cons_len, ih]

@[simp] theorem lens_map_len {g : α → List UInt8} :
    lens k (l.map fun x => ⟨j, .len (g x)⟩) = if j = k then l.map g else [] := by
  induction l with
  | nil => split_ifs <;> rfl
  | cons x l ih =>
    rw [List.map_cons, lens_cons_len, ih]
    split_ifs <;> rfl

@[simp] theorem lens_map_varint {g : α → Nat} : lens k (l.map fun x => ⟨j, .varint (g x)⟩) = [] := by
  induction l with
  | nil => rfl
  | cons x l ih => rw [List.map_cons, lens_cons_varint, ih]

end
end Wire

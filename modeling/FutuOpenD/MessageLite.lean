import FutuOpenD.FieldTypes
import Mathlib.Data.List.Nodup

/-!
# Generated messages (`google/protobuf/message_lite.h`, `pb/*.pb.cc`)

The classes that `protoc` generates differ in their fields only. A `MemberType` is a kind of member, with
the code that is generated for it and what it means in the `.proto` file; a `Generated` type of messages is
a list of fields, and the functions of `MessageLite` are those of its fields. A message is parsed as the
`.proto` file says, in whatever order and however often its fields come (`parseFromArray_of_records`), and
what the serialiser writes is read back (`parseFromArray_of_message`).
-/

namespace FutuOpenD
open Wire WireFormatLite

/-- Records of a message that is not too long are valid, and what they embed is `ok`. -/
def Sound (ok : Record → Prop) (rs : List Record) : Prop :=
  (encode rs).length < 2 ^ 31 → ∀ rec ∈ rs, ValidRecord rec ∧ ok rec

/-- A kind of member of a generated class: its value in a message as constructed, the code for it (what
reads a field into it, whether its bit in `_has_bits_` is set, whether what it holds is initialised, what
`ByteSizeLong` adds for it, whether it asks for the bit or not, and what is written), and what it means:
its value after some records, and the records for a value. What the records embed has to be `ok`, and
is at most `depth` messages deep. -/
structure MemberType (α : Type) where
  empty : α
  wireType : Nat
  read : InputLib → α → CodedInputStream → Option (α × CodedInputStream)
  has : α → Bool
  isInitialized : α → Bool
  sizeIfHas : α → Nat
  size : α → Nat
  writeToArray : UInt32 → α → List UInt8
  ofRecords : Nat → List Record → α
  records : Nat → α → List Record
  ok : Nat → Record → Prop
  depth : Nat

/-- The code agrees with the meaning. -/
structure MemberType.Lawful {α : Type} (t : MemberType α) : Prop where
  wireType_lt : t.wireType < 8
  size_eq : ∀ x, t.has x = true → t.size x = t.sizeIfHas x
  ofRecords_nil : ∀ k, t.ofRecords k [] = t.empty
  ofRecords_filter : ∀ k rs, t.ofRecords k (rs.filter fun rec => rec.number = k) = t.ofRecords k rs
  ofRecords_other : ∀ k rec, tagOf rec ≠ 8 * k + t.wireType → ∀ rs, t.ofRecords k (rs ++ [rec]) = t.ofRecords k rs
  ofRecords_records : ∀ k x, t.ofRecords k (t.records k x) = x
  number_of_mem : ∀ k x, ∀ rec ∈ t.records k x, rec.number = k
  ok_of_ne : ∀ k rec, rec.number ≠ k → t.ok k rec
  reads : ∀ L : InputLib, L.Lawful → ∀ k rec, ValidRecord rec → t.ok k rec → tagOf rec = 8 * k + t.wireType → ∀ rs s l,
    s.buffer = rec.payload.encode ++ l → (t.depth : Int) ≤ s.recursionBudget →
      ∃ s', t.read L (t.ofRecords k rs) s = some (t.ofRecords k (rs ++ [rec]), s') ∧ ReadTo s l s'
  renders : ∀ k : UInt32, k.toNat < 16 → ∀ x, Renders (t.sizeIfHas x) (t.writeToArray k x) (t.records k.toNat x)
  sound : ∀ k x, 0 < k → k < 16 → Sound (t.ok k) (t.records k x)

/-- A field of a message of type `μ`, with the tag that the parser expects. -/
structure Member (μ : Type) where
  {α : Type}
  number : Nat
  tag : Nat
  isRequired : Bool
  type : MemberType α
  get : μ → α
  set : μ → α → μ

/-- Number and tag are right, and what is set can be got. -/
@[mk_iff]
structure Member.Ok {μ : Type} (empty : μ) (f : Member μ) : Prop where
  type : f.type.Lawful
  pos : 0 < f.number
  lt : f.number < 16
  tag_eq : f.tag = 8 * f.number + f.type.wireType
  get_empty : f.get empty = f.type.empty
  get_set : ∀ m x, f.get (f.set m x) = x

/-- The fields are independent and make up the message. -/
structure Fields {μ : Type} (empty : μ) (fields : List (Member μ)) : Prop where
  ok : ∀ f ∈ fields, f.Ok empty
  nodup : (fields.map Member.number).Nodup
  get_set_of_ne : ∀ f ∈ fields, ∀ g ∈ fields, f.number ≠ g.number → ∀ m x, g.get (f.set m x) = g.get m
  ext : ∀ m m' : μ, (∀ f ∈ fields, f.get m = f.get m') → m = m'

/-- What `ByteSizeLong` comes to, if it asks for the bit of each field. -/
def sizeOfFields {μ : Type} (fields : List (Member μ)) (m : μ) : Nat :=
  (fields.map fun f => f.type.sizeIfHas (f.get m)).sum

/-- A class that `protoc` generates: a message as constructed, its fields, and `ByteSizeLong`. -/
class Generated (μ : Type) where
  empty : μ
  fields : List (Member μ)
  byteSizeLong : μ → Nat
  lawful : Fields empty fields
  byteSizeLong_eq : ∀ m, byteSizeLong m = sizeOfFields fields m

/-- `ByteSizeLong` where several fields are required: if all bits are set it does not ask for each. -/
def byteSizeOfRequired {μ : Type} (fields : List (Member μ)) (m : μ) : Nat :=
  let required := fields.filter Member.isRequired
  (if required.all fun f => f.type.has (f.get m) then (required.map fun f => f.type.size (f.get m)).sum
    else sizeOfFields required m) + sizeOfFields (fields.filter fun f => !f.isRequired) m

namespace Generated
variable {μ : Type} [Generated μ]

/-- The switch; `none` for `goto handle_unusual`. -/
def switch (μ : Type) [Generated μ] (L : InputLib) (tag : UInt32) : Option (Reader μ) :=
  ((fields : List (Member μ)).find? fun f => f.number = getTagFieldNumber tag).bind fun f =>
    if tag.toUInt8 = UInt8.ofNat f.tag then
      some fun m s => (f.type.read L (f.get m) s).map fun p => (f.set m p.1, p.2)
    else none

def mergePartialFromCodedStream (L : InputLib) : Reader μ := mergePartial L (switch μ L)

def isInitialized (m : μ) : Bool :=
  (fields : List (Member μ)).all fun f => (!f.isRequired || f.type.has (f.get m)) && f.type.isInitialized (f.get m)

/-- `InternalSerializeWithCachedSizesToArray`. -/
def serializeToArray (m : μ) : List UInt8 :=
  (fields : List (Member μ)).flatMap fun f => f.type.writeToArray (UInt32.ofNat f.number) (f.get m)

/-- `MessageLite::ParseFromArray`: `Clear`, `MergePartialFromCodedStream`, `IsInitialized` and
`ConsumedEntireMessage`. -/
def parseFromArray (L : InputLib) (data : List UInt8) (size : Int32) : Option μ :=
  (mergePartialFromCodedStream L (empty : μ) (.new (data.take size.toInt.toNat))).bind fun r =>
    if isInitialized r.1 && r.2.legitimateMessageEnd then some r.1 else none

/-- `MessageLite::SerializeToString`, which gives up on more bytes than an `int` counts. -/
def serializeToString (m : μ) : Option (List UInt8) :=
  if byteSizeLong m < 2 ^ 31 then some (serializeToArray m) else none

/-- The message that the records make up. -/
def ofRecords (rs : List Record) : μ :=
  (fields : List (Member μ)).foldl (fun m f => f.set m (f.type.ofRecords f.number rs)) empty

def records (m : μ) : List Record := (fields : List (Member μ)).flatMap fun f => f.type.records f.number (f.get m)

/-- What the record embeds is itself a message. -/
def WellFormed (μ : Type) [Generated μ] (rec : Record) : Prop := ∀ f ∈ (fields : List (Member μ)), f.type.ok f.number rec

/-- The bytes are records that make up the message. -/
def Encodes (m : μ) (body : List UInt8) : Prop :=
  ∃ rs, body = encode rs ∧ (∀ rec ∈ rs, ValidRecord rec ∧ WellFormed μ rec) ∧ ofRecords rs = m

/-- How deep messages are embedded. -/
def depth (μ : Type) [Generated μ] : Nat := ((fields : List (Member μ)).map fun f => f.type.depth).foldr max 0

section
variable {f g : Member μ} {fs : List (Member μ)} {rec : Record} {rs : List Record} {m m' : μ}

theorem eq_of_number (hf : f ∈ (fields : List (Member μ))) (hg : g ∈ (fields : List (Member μ))) (h : f.number = g.number) :
    f = g :=
  List.inj_on_of_nodup_map (lawful : Fields (empty : μ) fields).nodup hf hg h

theorem get_foldl_of_notMem (val : ∀ g : Member μ, g.α) (hf : f ∈ (fields : List (Member μ)))
    (hfs : ∀ g ∈ fs, g ∈ (fields : List (Member μ))) (h : ∀ g ∈ fs, g.number ≠ f.number) :
    f.get (fs.foldl (fun m g => g.set m (val g)) m) = f.get m := by
  induction fs generalizing m with
  | nil => rfl
  | cons g fs ih =>
    obtain ⟨hg, hfs⟩ := List.forall_mem_cons.1 hfs
    obtain ⟨hne, h⟩ := List.forall_mem_cons.1 h
    rw [List.foldl_cons, ih hfs h, lawful.get_set_of_ne g hg f hf hne]

theorem get_foldl (val : ∀ g : Member μ, g.α) (hfs : ∀ g ∈ fs, g ∈ (fields : List (Member μ)))
    (hnodup : (fs.map Member.number).Nodup) (hf : f ∈ fs) :
    f.get (fs.foldl (fun m g => g.set m (val g)) m) = val f := by
  induction fs generalizing m with
  | nil => cases hf
  | cons g fs ih =>
    obtain ⟨hg, hrest⟩ := List.forall_mem_cons.1 hfs
    rw [List.map_cons, List.nodup_cons] at hnodup
    rcases List.mem_cons.1 hf with rfl | hf
    · rw [List.foldl_cons, get_foldl_of_notMem val hg hrest, (lawful.ok f hg).get_set]
      exact fun g' hg' h => hnodup.1 (h ▸ List.mem_map_of_mem hg')
    · rw [List.foldl_cons, ih hrest hnodup.2 hf]

theorem get_ofRecords (hf : f ∈ (fields : List (Member μ))) (rs : List Record) :
    f.get (ofRecords rs) = f.type.ofRecords f.number rs :=
  get_foldl (fun g => g.type.ofRecords g.number rs) (fun _ hg => hg) lawful.nodup hf

theorem ofRecords_nil : (ofRecords [] : μ) = empty := by
  refine lawful.ext _ _ fun f hf => ?_
  rw [get_ofRecords hf, (lawful.ok f hf).type.ofRecords_nil, (lawful.ok f hf).get_empty]

theorem tag_of_number (hf : f ∈ (fields : List (Member μ))) (h : tagOf rec = f.tag) : rec.number = f.number := by
  have hlt := rec.payload.wireType_lt
  have hlt' := (lawful.ok f hf).type.wireType_lt
  rw [(lawful.ok f hf).tag_eq, tagOf] at h
  omega

/-- A record whose tag is that of another field, or of none, does not concern a field. -/
theorem ofRecords_snoc_of_ne (hf : f ∈ (fields : List (Member μ))) (h : tagOf rec ≠ f.tag) (rs : List Record) :
    f.type.ofRecords f.number (rs ++ [rec]) = f.type.ofRecords f.number rs :=
  (lawful.ok f hf).type.ofRecords_other _ _ ((lawful.ok f hf).tag_eq ▸ h) rs

/-- A record with the tag of a field changes this field. -/
theorem set_ofRecords (hf : f ∈ (fields : List (Member μ))) (h : tagOf rec = f.tag) (rs : List Record) :
    f.set (ofRecords rs) (f.type.ofRecords f.number (rs ++ [rec])) = ofRecords (rs ++ [rec]) := by
  refine lawful.ext _ _ fun g hg => ?_
  by_cases hfg : f.number = g.number
  · obtain rfl := eq_of_number hf hg hfg
    rw [(lawful.ok f hf).get_set, get_ofRecords hf]
  · rw [lawful.get_set_of_ne f hf g hg hfg, get_ofRecords hg, get_ofRecords hg, ofRecords_snoc_of_ne hg]
    exact fun htag => hfg ((tag_of_number hf h).symm.trans (tag_of_number hg htag))

theorem depth_le (hf : f ∈ (fields : List (Member μ))) : f.type.depth ≤ depth μ := by
  rw [depth]
  generalize (fields : List (Member μ)) = fs at hf
  induction fs with
  | nil => cases hf
  | cons g fs ih =>
    rw [List.map_cons, List.foldr_cons]
    rcases List.mem_cons.1 hf with rfl | hf
    · exact le_max_left _ _
    · exact (ih hf).trans (le_max_right _ _)

theorem tag_lt (hf : f ∈ (fields : List (Member μ))) : f.tag < 128 := by
  have hlt := (lawful.ok f hf).lt
  have hw := (lawful.ok f hf).type.wireType_lt
  rw [(lawful.ok f hf).tag_eq]
  omega

/-- The generated parser takes each record to the field with its tag. -/
theorem switch_reads (μ : Type) [Generated μ] {L : InputLib} (hL : L.Lawful) :
    Reads L (switch μ L) ofRecords (WellFormed μ) (depth μ) where
  known := by
    intro rec read hvalid hok hread rs s l hs hdepth
    obtain ⟨hlt, hread⟩ := Option.ite_none_right_eq_some.1 hread
    obtain ⟨f, hfind, hread⟩ := Option.bind_eq_some_iff.1 hread
    obtain ⟨htag, hread⟩ := Option.ite_none_right_eq_some.1 hread
    cases hread
    have hf := List.mem_of_find?_eq_some hfind
    have htag := (toUInt8_tagOf hlt (tag_lt hf)).1 htag
    obtain ⟨s', hread, hto⟩ := (lawful.ok f hf).type.reads L hL f.number rec hvalid (hok f hf)
      (htag.trans (lawful.ok f hf).tag_eq) rs s l hs ((Int.ofNat_le.2 (depth_le hf)).trans hdepth)
    refine ⟨s', ?_, hto⟩
    dsimp only
    rw [get_ofRecords hf, hread, ← set_ofRecords hf htag]
    rfl
  unusual := by
    intro rec hread rs
    have hother : ∀ f ∈ (fields : List (Member μ)), tagOf rec ≠ f.tag := by
      intro f hf htag
      have hlt : tagOf rec < 128 := htag ▸ tag_lt hf
      have hnumber : getTagFieldNumber (UInt32.ofNat (tagOf rec)) = f.number := by
        rw [getTagFieldNumber_tagOf hlt, tag_of_number hf htag]
      have hsome : ((fields : List (Member μ)).find? fun f => f.number = getTagFieldNumber (UInt32.ofNat (tagOf rec))).isSome :=
        List.find?_isSome.2 ⟨f, hf, decide_eq_true hnumber.symm⟩
      obtain ⟨g, hfind⟩ := Option.isSome_iff_exists.1 hsome
      obtain rfl : g = f := by
        have hg := List.find?_some hfind
        exact eq_of_number (List.mem_of_find?_eq_some hfind) hf ((of_decide_eq_true hg).trans hnumber)
      rw [readerFor, if_pos hlt, switch, hfind, Option.bind_some, if_pos ((toUInt8_tagOf hlt (tag_lt hf)).2 htag)] at hread
      cases hread
    refine lawful.ext _ _ fun f hf => ?_
    rw [get_ofRecords hf, get_ofRecords hf, ofRecords_snoc_of_ne hf (hother f hf)]

omit [Generated μ] in
/-- Of the records of all fields, those with the number of a field are its own. -/
theorem filter_flatMap {val : Member μ → List Record} (hval : ∀ g ∈ fs, ∀ rec ∈ val g, rec.number = g.number)
    (hnodup : (fs.map Member.number).Nodup) (hf : f ∈ fs) :
    (fs.flatMap val).filter (fun rec => rec.number = f.number) = val f := by
  induction fs with
  | nil => cases hf
  | cons g fs ih =>
    obtain ⟨hg, hrest⟩ := List.forall_mem_cons.1 hval
    rw [List.map_cons, List.nodup_cons] at hnodup
    rw [List.flatMap_cons, List.filter_append]
    rcases List.mem_cons.1 hf with rfl | hf
    · have hself : (val f).filter (fun rec => rec.number = f.number) = val f :=
        List.filter_eq_self.2 fun rec hrec => decide_eq_true (hg rec hrec)
      have hother : (fs.flatMap val).filter (fun rec => rec.number = f.number) = [] := by
        refine List.filter_eq_nil_iff.2 fun rec hrec h => hnodup.1 ?_
        obtain ⟨g, hg, hrec⟩ := List.mem_flatMap.1 hrec
        rw [← of_decide_eq_true h, hrest g hg rec hrec]
        exact List.mem_map_of_mem hg
      rw [hself, hother, List.append_nil]
    · have hother : (val g).filter (fun rec => rec.number = f.number) = [] := by
        refine List.filter_eq_nil_iff.2 fun rec hrec h => hnodup.1 ?_
        rw [← hg rec hrec, of_decide_eq_true h]
        exact List.mem_map_of_mem hf
      rw [hother, List.nil_append, ih hrest hnodup.2 hf]

theorem ofRecords_records (m : μ) : ofRecords (records m) = m := by
  refine lawful.ext _ _ fun f hf => ?_
  have hnumber : ∀ g ∈ (fields : List (Member μ)), ∀ rec ∈ g.type.records g.number (g.get m), rec.number = g.number :=
    fun g hg => (lawful.ok g hg).type.number_of_mem _ _
  rw [get_ofRecords hf, ← (lawful.ok f hf).type.ofRecords_filter, records, filter_flatMap hnumber lawful.nodup hf,
    (lawful.ok f hf).type.ofRecords_records]

theorem renders (m : μ) : Renders (byteSizeLong m) (serializeToArray m) (records m) := by
  have hfs : ∀ f ∈ (fields : List (Member μ)), f.type.Lawful ∧ f.number < 16 :=
    fun f hf => ⟨(lawful.ok f hf).type, (lawful.ok f hf).lt⟩
  rw [byteSizeLong_eq, sizeOfFields, serializeToArray, records]
  generalize (fields : List (Member μ)) = fs at hfs
  induction fs with
  | nil => exact .nil
  | cons f fs ih =>
    obtain ⟨⟨hf, hlt⟩, hrest⟩ := List.forall_mem_cons.1 hfs
    have hnumber : (UInt32.ofNat f.number).toNat = f.number := UInt32.toNat_ofNat_of_lt' (Nat.lt_trans hlt (by decide))
    have h := hf.renders (UInt32.ofNat f.number) (by rw [hnumber]; exact hlt) (f.get m)
    rw [hnumber] at h
    exact h.append (ih hrest)

theorem sound (m : μ) : Sound (WellFormed μ) (records m) := by
  intro hlen rec hrec
  obtain ⟨f, hf, hrec⟩ := List.mem_flatMap.1 hrec
  have hle : (encode (f.type.records f.number (f.get m))).length ≤ (encode (records m)).length := by
    obtain ⟨l, l', hl⟩ := List.mem_iff_append.1 hf
    rw [records, hl, List.flatMap_append, List.flatMap_cons, encode_append, encode_append, List.length_append,
      List.length_append]
    omega
  obtain ⟨hvalid, hok⟩ := (lawful.ok f hf).type.sound f.number (f.get m) (lawful.ok f hf).pos (lawful.ok f hf).lt
    (Nat.lt_of_le_of_lt hle hlen) rec hrec
  refine ⟨hvalid, fun g hg => ?_⟩
  by_cases hfg : f.number = g.number
  · exact eq_of_number hf hg hfg ▸ hok
  · refine (lawful.ok g hg).type.ok_of_ne _ _ fun h => hfg ?_
    rw [← h, (lawful.ok f hf).type.number_of_mem _ _ rec hrec]

end

section
variable {L : InputLib} {rs : List Record}

/-- A message is parsed as its `.proto` file says, and refused if a required field is missing. -/
theorem parseFromArray_of_records (hL : L.Lawful) (hrs : ∀ rec ∈ rs, ValidRecord rec ∧ WellFormed μ rec)
    (hlen : (encode rs).length < 2 ^ 31) (hdepth : depth μ ≤ 100) :
    parseFromArray L (encode rs) (Int32.ofNat (encode rs).length) =
      if isInitialized (ofRecords rs : μ) then some (ofRecords rs : μ) else none := by
  obtain ⟨s', hmerge, -, hend⟩ := mergePartial_encode (s := .new (encode rs)) hL (switch_reads μ hL) hrs rfl
    (Int.ofNat_le.2 hdepth) []
  rw [ofRecords_nil, List.nil_append] at hmerge
  rw [parseFromArray, Int32.toInt_ofNat_of_lt hlen, Int.toNat_natCast, List.take_length,
    mergePartialFromCodedStream, hmerge, Option.bind_some, hend, Bool.and_true]

theorem serializeToString_eq (m : μ) :
    serializeToString m = if (encode (records m)).length < 2 ^ 31 then some (encode (records m)) else none := by
  obtain ⟨hs, hb, hl⟩ := renders m
  rw [serializeToString]
  by_cases h : (encode (records m)).length < 2 ^ 31
  · rw [if_pos h, if_pos (by rw [hs h]; exact h), hb h]
  · rw [if_neg h, if_neg (Nat.not_lt.2 (hl (Nat.le_of_not_lt h)))]

/-- Every encoding of a message is parsed as it, and refused if a required field is missing. -/
theorem parseFromArray_of_encodes (hL : L.Lawful) (hdepth : depth μ ≤ 100) {m : μ} {body : List UInt8}
    (hbody : Encodes m body) (hlen : body.length < 2 ^ 31) :
    parseFromArray L body (Int32.ofNat body.length) = if isInitialized m then some m else none := by
  obtain ⟨rs, rfl, hrs, rfl⟩ := hbody
  exact parseFromArray_of_records hL hrs hlen hdepth

/-- What the serialiser of the class writes is one. -/
theorem encodes_records {m : μ} (hlen : (encode (records m)).length < 2 ^ 31) : Encodes m (encode (records m)) :=
  ⟨records m, rfl, sound m hlen, ofRecords_records m⟩

end
end Generated

theorem sizeOfFields_filter {μ : Type} (fields : List (Member μ)) (p : Member μ → Bool) (m : μ) :
    sizeOfFields fields m = sizeOfFields (fields.filter p) m + sizeOfFields (fields.filter fun f => !p f) m := by
  induction fields with
  | nil => rfl
  | cons f fields ih =>
    have hcons : ∀ l, sizeOfFields (f :: l) m = f.type.sizeIfHas (f.get m) + sizeOfFields l m := fun _ => rfl
    rw [hcons, ih]
    cases h : p f
    · rw [List.filter_cons_of_neg (by simp [h]), List.filter_cons_of_pos (by simp [h]), hcons]
      omega
    · rw [List.filter_cons_of_pos (by simp [h]), List.filter_cons_of_neg (by simp [h]), hcons]
      omega

/-- Not asking for each bit makes no difference. -/
theorem byteSizeOfRequired_eq {μ : Type} {fields : List (Member μ)} (h : ∀ f ∈ fields, f.type.Lawful) (m : μ) :
    byteSizeOfRequired fields m = sizeOfFields fields m := by
  have hrequired : ((fields.filter Member.isRequired).all fun f => f.type.has (f.get m)) = true →
      ((fields.filter Member.isRequired).map fun f => f.type.size (f.get m)).sum =
        sizeOfFields (fields.filter Member.isRequired) m := by
    intro hall
    refine congrArg List.sum (List.map_congr_left fun f hf => ?_)
    exact (h f (List.mem_of_mem_filter hf)).size_eq _ (List.all_eq_true.1 hall f hf)
  rw [sizeOfFields_filter fields Member.isRequired, byteSizeOfRequired]
  split_ifs with hall
  · rw [hrequired hall]
  · rfl

/-- A class with these fields, several of which are required. -/
@[reducible] def Generated.ofRequired {μ : Type} (empty : μ) (fields : List (Member μ)) (h : Fields empty fields) :
    Generated μ where
  empty := empty
  fields := fields
  byteSizeLong := byteSizeOfRequired fields
  lawful := h
  byteSizeLong_eq := byteSizeOfRequired_eq fun f hf => (h.ok f hf).type

/-- A class with these fields, one of which may be required. -/
@[reducible] def Generated.ofFields {μ : Type} (empty : μ) (fields : List (Member μ)) (h : Fields empty fields) :
    Generated μ where
  empty := empty
  fields := fields
  byteSizeLong := sizeOfFields fields
  lawful := h
  byteSizeLong_eq := fun _ => rfl

end FutuOpenD

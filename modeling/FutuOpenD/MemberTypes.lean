import FutuOpenD.MessageLite

/-!
# The members of a generated class (`pb/*.pb.cc`)

`protoc` generates the same code for every scalar field, for every embedded message and for every repeated
one. These are the three kinds of member that the messages of the client have.
-/

namespace FutuOpenD
open Wire WireFormatLite Generated

/-- What is written for a field if its bit is set. -/
def ifHas {α : Type} (value : Option α) (write : α → List UInt8) : List UInt8 := (value.map write).getD []

/-- What is added to the size for a field if its bit is set. -/
def addIfHas {α : Type} (value : Option α) (size : α → Nat) : Nat := (value.map size).getD 0

theorem addIfHas_of_isSome {α : Type} {value : Option α} (h : value.isSome = true) (size : α → Nat) (d : α) :
    size (value.getD d) = addIfHas value size := by
  obtain ⟨x, rfl⟩ := Option.isSome_iff_exists.1 h
  rfl

/-- The message whose parts are given; `none` if there are none. -/
def messageOf (σ : Type) [Generated σ] (l : List (List UInt8)) : Option σ :=
  if l = [] then none else some (ofRecords (parts l))

/-- The messages that are given. -/
def messagesOf (σ : Type) [Generated σ] (l : List (List UInt8)) : List σ := l.map fun bytes => ofRecords (parts [bytes])

/-- Member `k`, with the given messages. -/
def messageRecords {σ : Type} [Generated σ] (k : Nat) (l : List σ) : List Record :=
  l.map fun m => ⟨k, .len (encode (records m))⟩

/-- Member `k` embeds messages of the type. -/
def Embeds (σ : Type) [Generated σ] (k : Nat) (rec : Record) : Prop :=
  ∀ bytes, rec = ⟨k, .len bytes⟩ → ∃ rs, bytes = encode rs ∧ ∀ rec ∈ rs, ValidRecord rec ∧ WellFormed σ rec

namespace MemberType
variable {α σ : Type}

/-- A field that is not repeated, of a scalar type. -/
def scalar (t : CodedType α) : MemberType (Option α) where
  empty := none
  wireType := t.wireType
  read := fun L _ s => (t.read L s).map fun p => (some p.1, p.2)
  has := Option.isSome
  isInitialized := fun _ => true
  sizeIfHas := fun value => addIfHas value (1 + t.size ·)
  size := fun value => 1 + t.size (value.getD t.default)
  writeToArray := fun k value => ifHas value (t.writeToArray k)
  ofRecords := t.last
  records := t.records
  ok := fun _ _ => True
  depth := 0

variable (σ) [Generated σ]

/-- An embedded message, which is read into the one that is there. -/
def message : MemberType (Option σ) where
  empty := none
  wireType := 2
  read := fun L value s =>
    (readMessage L (mergePartialFromCodedStream L) (value.getD Generated.empty) s).map fun p => (some p.1, p.2)
  has := Option.isSome
  isInitialized := fun value => value.all Generated.isInitialized
  sizeIfHas := fun value => addIfHas value fun m => 1 + messageSize (byteSizeLong m)
  size := fun value => 1 + messageSize (byteSizeLong (value.getD Generated.empty))
  writeToArray := fun k value =>
    ifHas value fun m => internalWriteMessageToArray k (toCachedSize (byteSizeLong m)) (serializeToArray m)
  ofRecords := fun k rs => messageOf σ (lens k rs)
  records := fun k value => messageRecords k value.toList
  ok := Embeds σ
  depth := Generated.depth σ + 1

/-- A repeated message, each read into a new element. -/
def repeatedMessage : MemberType (List σ) where
  empty := []
  wireType := 2
  read := fun L l s => (readMessage L (mergePartialFromCodedStream L) Generated.empty s).map fun p => (l ++ [p.1], p.2)
  has := fun _ => true
  isInitialized := fun l => l.all Generated.isInitialized
  sizeIfHas := fun l => 1 * l.length + (l.map fun m => messageSize (byteSizeLong m)).sum
  size := fun l => 1 * l.length + (l.map fun m => messageSize (byteSizeLong m)).sum
  writeToArray := fun k l =>
    l.flatMap fun m => internalWriteMessageToArray k (toCachedSize (byteSizeLong m)) (serializeToArray m)
  ofRecords := fun k rs => messagesOf σ (lens k rs)
  records := messageRecords
  ok := Embeds σ
  depth := Generated.depth σ + 1

variable {σ} {t : CodedType α}

@[simp] theorem empty_scalar : (scalar t).empty = none := rfl
@[simp] theorem empty_message : (message σ).empty = none := rfl
@[simp] theorem empty_repeatedMessage : (repeatedMessage σ).empty = [] := rfl
@[simp] theorem wireType_scalar : (scalar t).wireType = t.wireType := (rfl)
@[simp] theorem wireType_message : (message σ).wireType = 2 := (rfl)
@[simp] theorem wireType_repeatedMessage : (repeatedMessage σ).wireType = 2 := (rfl)

end MemberType

section
variable {α μ : Type}

def Member.required (number tag : Nat) (t : CodedType α) (get : μ → Option α) (set : μ → Option α → μ) : Member μ :=
  ⟨number, tag, true, .scalar t, get, set⟩

def Member.optional (number tag : Nat) (t : CodedType α) (get : μ → Option α) (set : μ → Option α → μ) : Member μ :=
  ⟨number, tag, false, .scalar t, get, set⟩

def Member.message (σ : Type) [Generated σ] (number tag : Nat) (isRequired : Bool) (get : μ → Option σ)
    (set : μ → Option σ → μ) : Member μ :=
  ⟨number, tag, isRequired, .message σ, get, set⟩

def Member.repeatedMessage (σ : Type) [Generated σ] (number tag : Nat) (get : μ → List σ) (set : μ → List σ → μ) :
    Member μ :=
  ⟨number, tag, false, .repeatedMessage σ, get, set⟩

variable {k : Nat} {rec : Record} {rs rs' : List Record}

theorem Sound.nil {ok : Record → Prop} : Sound ok [] := fun _ _ hrec => absurd hrec List.not_mem_nil

theorem Sound.append {ok : Record → Prop} (h : Sound ok rs) (h' : Sound ok rs') : Sound ok (rs ++ rs') := by
  intro hlen
  rw [encode_append, List.length_append] at hlen
  exact List.forall_mem_append.2 ⟨h (by omega), h' (by omega)⟩

theorem length_lt_of_len {bytes : List UInt8} (h : (encode [⟨k, .len bytes⟩]).length < 2 ^ 31) : bytes.length < 2 ^ 31 := by
  have henc : encode [⟨k, .len bytes⟩] = tag k 2 ++ (varint bytes.length ++ bytes) := List.append_nil _
  rw [henc, List.length_append, List.length_append] at h
  omega

@[simp] theorem MemberType.scalar_lawful (t : CodedType α) : (scalar t).Lawful where
  wireType_lt := t.wireType_lt
  size_eq := fun _ hx => addIfHas_of_isSome hx (fun x => 1 + t.size x) t.default
  ofRecords_nil := fun _ => rfl
  ofRecords_filter := fun _ rs => FieldType.last_filter rs
  ofRecords_other := by
    intro k rec htag rs
    show t.last k (rs ++ [rec]) = t.last k rs
    rw [FieldType.last_append, FieldType.last_singleton_of_ne htag, Option.none_or]
  ofRecords_records := fun _ x => FieldType.last_records x
  number_of_mem := fun _ _ _ hrec => FieldType.number_of_mem_records hrec
  ok_of_ne := fun _ _ _ => trivial
  reads := by
    intro L hL k rec hvalid _ htag rs s l hs _
    obtain ⟨hnumber, hw⟩ := FieldType.number_of_tag htag
    obtain ⟨x, hx⟩ := Option.isSome_iff_exists.1 ((t.isSome_value rec.payload).2 hw)
    have hlast : (scalar t).ofRecords k (rs ++ [rec]) = some x := by
      show t.last k (rs ++ [rec]) = some x
      rw [FieldType.last_append, FieldType.last_singleton hnumber, hx, Option.some_or]
    rw [hlast]
    exact ReadTo.map some (t.reads L hL _ _ _ _ hvalid.fits hx hs)
  renders := by
    intro k hk value
    cases value with
    | none => exact .nil
    | some x => exact t.renders k hk x
  sound := by
    intro k value hpos hk
    cases value with
    | none => exact .nil
    | some x =>
      intro hlen rec hrec
      cases List.mem_singleton.1 hrec
      refine ⟨.of_small hpos hk (t.fits x fun bytes hx => ?_), trivial⟩
      exact length_lt_of_len (k := k) (hx ▸ hlen)

end

section
variable {σ : Type} [Generated σ] {k : Nat} {rec : Record} {rs : List Record}

theorem getD_messageOf (l : List (List UInt8)) : (messageOf σ l).getD empty = ofRecords (parts l) := by
  rw [messageOf]
  split_ifs with h
  · rw [h, Option.getD_none]
    exact ofRecords_nil.symm
  · rfl

theorem lens_messageRecords (l : List σ) : lens k (messageRecords k l) = l.map fun m => encode (records m) :=
  lens_map_len.trans (if_pos rfl)

theorem messagesOf_append (l l' : List (List UInt8)) :
    messagesOf σ (l ++ l') = messagesOf σ l ++ messagesOf σ l' := List.map_append

theorem messagesOf_encode (l : List σ) : messagesOf σ (l.map fun m => encode (records m)) = l := by
  rw [messagesOf, List.map_map]
  refine (List.map_congr_left fun m _ => ?_).trans (List.map_id l)
  show ofRecords (parts [_]) = m
  rw [parts_encode, ofRecords_records]

theorem number_of_mem_messageRecords {l : List σ} (h : rec ∈ messageRecords k l) : rec.number = k := by
  obtain ⟨m, -, rfl⟩ := List.mem_map.1 h
  rfl

theorem Embeds.of_ne (h : rec.number ≠ k) : Embeds σ k rec := by
  rintro bytes rfl
  exact absurd rfl h

theorem Embeds.of_encode (h : ∀ rec ∈ rs, ValidRecord rec ∧ WellFormed σ rec) : Embeds σ k ⟨k, .len (encode rs)⟩ := by
  intro bytes hbytes
  cases hbytes
  exact ⟨rs, rfl, h⟩

/-- A record with a tag for messages, of which one is embedded. -/
theorem Embeds.of_tag (h : Embeds σ k rec) (htag : tagOf rec = 8 * k + 2) :
    ∃ es, rec = ⟨k, .len (encode es)⟩ ∧ ∀ e ∈ es, ValidRecord e ∧ WellFormed σ e := by
  obtain ⟨hnumber, hw⟩ := FieldType.number_of_tag (t := .ofLen) htag
  obtain ⟨number, payload⟩ := rec
  cases payload with
  | len bytes =>
    obtain rfl : number = k := hnumber
    obtain ⟨es, rfl, hes⟩ := h bytes rfl
    exact ⟨es, rfl, hes⟩
  | _ => cases hw

theorem Sound.messageRecords (hpos : 0 < k) (hk : k < 16) (l : List σ) :
    Sound (Embeds σ k) (messageRecords k l) := by
  induction l with
  | nil => exact .nil
  | cons m l ih =>
    refine @Sound.append [_] _ _ (fun hlen rec hrec => ?_) ih
    cases List.mem_singleton.1 hrec
    have hlt := length_lt_of_len hlen
    exact ⟨.of_small hpos hk hlt, .of_encode (sound m hlt)⟩

@[simp] theorem MemberType.message_lawful (σ : Type) [Generated σ] : (message σ).Lawful where
  wireType_lt := Nat.succ_lt_succ (Nat.one_lt_succ_succ 5)
  size_eq := fun _ hx => addIfHas_of_isSome hx (fun m => 1 + messageSize (byteSizeLong m)) _
  ofRecords_nil := fun _ => rfl
  ofRecords_filter := fun _ rs => congrArg (messageOf σ) (lens_filter rs)
  ofRecords_other := by
    intro k rec htag rs
    show messageOf σ (lens k (rs ++ [rec])) = messageOf σ (lens k rs)
    rw [lens_append, lens_singleton_of_ne htag, List.append_nil]
  ofRecords_records := by
    intro k value
    show messageOf σ (lens k (messageRecords k value.toList)) = value
    rw [lens_messageRecords]
    cases value with
    | none => rfl
    | some m =>
      show some (Generated.ofRecords (parts [_])) = some m
      rw [parts_encode, Generated.ofRecords_records]
  number_of_mem := fun _ _ _ hrec => number_of_mem_messageRecords hrec
  ok_of_ne := fun _ _ h => .of_ne h
  reads := by
    intro L hL k rec hvalid hok htag rs s l hs hdepth
    obtain ⟨es, rfl, hes⟩ := hok.of_tag htag
    obtain ⟨s', hread, hto⟩ := readMessage_encode hL (switch_reads σ hL) hes hs hvalid.fits (Int.natCast_nonneg _)
      hdepth (parts (lens k rs))
    refine ⟨s', ?_, hto⟩
    show (readMessage L _ ((messageOf σ (lens k rs)).getD Generated.empty) s).map _ =
      some (messageOf σ (lens k (rs ++ [⟨k, .len (encode es)⟩])), s')
    rw [getD_messageOf, mergePartialFromCodedStream, hread, lens_append, lens_cons_len, if_pos rfl, lens_nil, messageOf,
      if_neg (List.append_ne_nil_of_right_ne_nil _ (List.cons_ne_nil _ _)), parts_append, parts_encode]
    rfl
  renders := by
    intro k hk value
    cases value with
    | none => exact .nil
    | some m => exact .messageField hk (Generated.renders m)
  sound := fun _ value hpos hk => .messageRecords hpos hk value.toList

@[simp] theorem MemberType.repeatedMessage_lawful (σ : Type) [Generated σ] : (repeatedMessage σ).Lawful where
  wireType_lt := Nat.succ_lt_succ (Nat.one_lt_succ_succ 5)
  size_eq := fun _ _ => rfl
  ofRecords_nil := fun _ => rfl
  ofRecords_filter := fun _ rs => congrArg (messagesOf σ) (lens_filter rs)
  ofRecords_other := by
    intro k rec htag rs
    show messagesOf σ (lens k (rs ++ [rec])) = messagesOf σ (lens k rs)
    rw [lens_append, lens_singleton_of_ne htag, List.append_nil]
  ofRecords_records := by
    intro k l
    show messagesOf σ (lens k (messageRecords k l)) = l
    rw [lens_messageRecords, messagesOf_encode]
  number_of_mem := fun _ _ _ hrec => number_of_mem_messageRecords hrec
  ok_of_ne := fun _ _ h => .of_ne h
  reads := by
    intro L hL k rec hvalid hok htag rs s l hs hdepth
    obtain ⟨es, rfl, hes⟩ := hok.of_tag htag
    obtain ⟨s', hread, hto⟩ := readMessage_encode hL (switch_reads σ hL) hes hs hvalid.fits (Int.natCast_nonneg _)
      hdepth []
    rw [Generated.ofRecords_nil, List.nil_append] at hread
    refine ⟨s', ?_, hto⟩
    show (readMessage L (mergePartial L _) Generated.empty s).map _ =
      some (messagesOf σ (lens k (rs ++ [⟨k, .len (encode es)⟩])), s')
    have hone : messagesOf σ [encode es] = [Generated.ofRecords es] := by
      rw [messagesOf, List.map_singleton, parts_encode]
    rw [hread, lens_append, lens_cons_len, if_pos rfl, lens_nil, messagesOf_append, hone]
    rfl
  renders := fun _ hk l => Renders.repeated l fun m => Renders.messageField hk (Generated.renders m)
  sound := fun _ l hpos hk => .messageRecords hpos hk l

end
end FutuOpenD

import FutuOpenD.FrameCut

/-!
# Reassembly of the stream

The reference is a parser of the whole stream with lengths that are natural numbers: `refCut` takes a
`Frame` off the front, and `refParse` keeps the frames whose digest is that of their body. As long as
the headers that the loop looks at declare at most 10485716 bytes, its 32-bit sum does not wrap and
`codeCut` and `refCut` agree, so by `receiveAll_of_drains` the receive path computes the reference
parse, however the stream is cut into reads.
-/

namespace FutuOpenD
open Bytes Runs Framing

structure Frame where
  header : APIProtoHeader
  body : List UInt8
  len : body.length = header.nBodyLen.toNat

def Frame.toBytes (f : Frame) : List UInt8 := f.header.toBytes ++ f.body

/-- A 44-byte header and then `nBodyLen` bytes of body. -/
def refCut (l : List UInt8) : Option ((APIProtoHeader × List UInt8) × List UInt8) :=
  if l.length < 44 then none
  else
    let header := APIProtoHeader.ofBytes l
    let rest := l.drop 44
    if rest.length < header.nBodyLen.toNat then none
    else some ((header, rest.take header.nBodyLen.toNat), rest.drop header.nBodyLen.toNat)

section
variable {l r stream : List UInt8}

theorem refCut_toBytes (f : Frame) (m : List UInt8) : refCut (f.toBytes ++ m) = some ((f.header, f.body), m) := by
  have hh := f.header.length_toBytes
  have hdrop : (f.header.toBytes ++ (f.body ++ m)).drop 44 = f.body ++ m := List.drop_left' hh
  unfold refCut Frame.toBytes
  rw [List.append_assoc, if_neg (by rw [List.length_append, hh, sizeofHeader]; omega)]
  dsimp only
  rw [APIProtoHeader.ofBytes_toBytes_append, hdrop, ← f.len,
    if_neg (by rw [List.length_append]; omega), List.take_left, List.drop_left]

theorem refCut_eq_some {p : APIProtoHeader × List UInt8} (h : refCut l = some (p, r)) :
    ∃ f : Frame, p = (f.header, f.body) ∧ l = f.toBytes ++ r := by
  unfold refCut at h
  split at h
  · cases h
  next h44 =>
  dsimp only at h
  split at h
  · cases h
  next hlen =>
  cases h
  refine ⟨⟨APIProtoHeader.ofBytes l, _, List.length_take_of_le (Nat.le_of_not_lt hlen)⟩, rfl, ?_⟩
  rw [Frame.toBytes, APIProtoHeader.toBytes_ofBytes (Nat.le_of_not_lt h44), List.append_assoc,
    List.take_append_drop]
  exact (List.take_append_drop 44 l).symm

/-- What the parser waits with is the beginning of a frame, and not all of it. -/
theorem refCut_eq_none (h : refCut l = none) :
    ∃ f : Frame, l <+: f.toBytes ∧ l.length < f.toBytes.length := by
  unfold refCut at h
  by_cases h44 : l.length < 44
  · -- the rest of the header and the body can be anything
    have hlen : (l ++ List.replicate (44 - l.length) 0).length = sizeofHeader := by
      rw [List.length_append, List.length_replicate, sizeofHeader]
      omega
    let header := APIProtoHeader.ofBytes (l ++ List.replicate (44 - l.length) 0)
    have hbytes : header.toBytes = l ++ List.replicate (44 - l.length) 0 := by
      rw [APIProtoHeader.toBytes_ofBytes hlen.ge, ← hlen, List.take_length]
    refine ⟨⟨header, List.replicate header.nBodyLen.toNat 0, List.length_replicate⟩, ?_, ?_⟩
    · rw [Frame.toBytes, hbytes, List.append_assoc]
      exact List.prefix_append _ _
    · rw [Frame.toBytes, List.length_append, header.length_toBytes, sizeofHeader]
      omega
  · -- the header is there and some of the body is missing
    rw [if_neg h44] at h
    dsimp only at h
    split at h
    · next hlen =>
      have hbytes : (APIProtoHeader.ofBytes l).toBytes ++ l.drop 44 = l := by
        rw [APIProtoHeader.toBytes_ofBytes (Nat.le_of_not_lt h44)]
        exact List.take_append_drop 44 l
      let missing := List.replicate ((APIProtoHeader.ofBytes l).nBodyLen.toNat - (l.drop 44).length) (0 : UInt8)
      have hmissing : missing.length = (APIProtoHeader.ofBytes l).nBodyLen.toNat - (l.drop 44).length :=
        List.length_replicate
      refine ⟨⟨APIProtoHeader.ofBytes l, l.drop 44 ++ missing, ?_⟩, ?_, ?_⟩
      · rw [List.length_append, hmissing]
        omega
      · rw [Frame.toBytes, ← List.append_assoc, hbytes]
        exact List.prefix_append _ _
      · rw [Frame.toBytes, ← List.append_assoc, hbytes, List.length_append, hmissing]
        omega
    · cases h

theorem refCut_stable {p : APIProtoHeader × List UInt8} (m : List UInt8) (h : refCut l = some (p, r)) :
    refCut (l ++ m) = some (p, r ++ m) := by
  obtain ⟨f, rfl, rfl⟩ := refCut_eq_some h
  rw [List.append_assoc]
  exact refCut_toBytes f (r ++ m)

theorem refCut_shorter {p : APIProtoHeader × List UInt8} (h : refCut l = some (p, r)) :
    r.length < l.length := by
  obtain ⟨f, rfl, rfl⟩ := refCut_eq_some h
  have := f.header.length_toBytes
  rw [Frame.toBytes, List.length_append, List.length_append, this, sizeofHeader]
  omega

def refParser : StrictCutter UInt8 (APIProtoHeader × List UInt8) where
  cut := refCut
  stable := refCut_stable
  shorter := refCut_shorter

/-- The frames of the stream whose digest is that of their body, and what is left of the stream. -/
def refParse (sha1 : List UInt8 → Field 20) (stream : List UInt8) :
    List (APIProtoHeader × List UInt8) × List UInt8 :=
  ((refParser.parse stream).1.filter fun p => sha1 p.2 = p.1.arrBodySHA1, (refParser.parse stream).2)

/-- Every header that the loop looks at announces a frame that fits the read store. -/
def HeadersFit (stream : List UInt8) : Prop :=
  ∀ l, codeCutter.Reaches stream l → 44 ≤ l.length →
    (APIProtoHeader.ofBytes l).nBodyLen.toNat ≤ 10485716

theorem codeCut_eq_refCut (h : 44 ≤ l.length → (APIProtoHeader.ofBytes l).nBodyLen.toNat ≤ 10485716) :
    codeCut l = refCut l := by
  unfold codeCut refCut
  by_cases h44 : l.length < 44
  · rw [if_pos h44]
    exact if_pos h44
  have hfit := h (Nat.le_of_not_lt h44)
  have hframe : (APIProtoHeader.ofBytes l).frameLen.toNat = 44 + (APIProtoHeader.ofBytes l).nBodyLen.toNat := by
    rw [toNat_frameLen, Nat.mod_eq_of_lt (by omega)]
  have hbody : (APIProtoHeader.ofBytes l).bodyLen = (APIProtoHeader.ofBytes l).nBodyLen.toNat := by
    rw [bodyLen_eq, if_pos (by omega)]
  rw [if_neg h44, if_neg (show ¬ l.length < sizeofHeader from h44)]
  dsimp only
  rw [hframe, hbody, List.length_drop, List.drop_drop]
  by_cases hlen : l.length < 44 + (APIProtoHeader.ofBytes l).nBodyLen.toNat
  · rw [if_pos hlen, if_pos (by omega)]
  · rw [if_neg hlen, if_neg (by omega)]
    rfl

/-! ### Streams of frames -/

def Frame.Fits (f : Frame) : Prop := f.header.nBodyLen.toNat ≤ 10485716

theorem codeCut_toBytes {f : Frame} (hf : f.Fits) (m : List UInt8) :
    codeCut (f.toBytes ++ m) = some ((f.header, f.body), m) := by
  rw [codeCut_eq_refCut, refCut_toBytes]
  intro _
  rw [Frame.toBytes, List.append_assoc, APIProtoHeader.ofBytes_toBytes_append]
  exact hf

theorem headersFit_flatMap {fs : List Frame} {rest : List UInt8} (hfs : ∀ f ∈ fs, f.Fits)
    (hrest : rest.length < 44) : HeadersFit (fs.flatMap Frame.toBytes ++ rest) := by
  have hwait : codeCut rest = none := codeCut_eq_none.2 (.inl hrest)
  induction fs with
  | nil =>
    intro l hl h44
    cases hl with
    | refl => exact absurd hrest (Nat.not_lt.2 h44)
    | next hc _ => exact absurd (hwait.symm.trans hc) (Option.some_ne_none _).symm
  | cons f fs ih =>
    intro l hl h44
    rw [List.flatMap_cons, List.append_assoc] at hl
    have hf := hfs f (by simp)
    cases hl with
    | refl =>
      rw [Frame.toBytes, List.append_assoc, APIProtoHeader.ofBytes_toBytes_append]
      exact hf
    | next hc hl =>
      rw [show codeCutter.cut (f.toBytes ++ _) = _ from codeCut_toBytes hf _] at hc
      cases hc
      exact ih (fun g hg => hfs g (by simp [hg])) l hl h44

variable {sha1 : List UInt8 → Field 20}

theorem recorder_foldl (os s : List (APIProtoHeader × List UInt8)) :
    os.foldl (handleFrame (recorder sha1)) s = s ++ os.filter fun p => sha1 p.2 = p.1.arrBodySHA1 := by
  induction os generalizing s with
  | nil => simp
  | cons p os ih =>
    rw [List.foldl_cons, ih, List.filter_cons]
    by_cases hp : sha1 p.2 = p.1.arrBodySHA1
    · simp [handleFrame, recorder, hp]
    · simp [handleFrame, recorder, hp]

/-- The reference parse undoes the concatenation of frames. -/
theorem refParse_flatMap {fs : List Frame} {rest : List UInt8} (hrest : rest.length < 44) :
    refParse sha1 (fs.flatMap Frame.toBytes ++ rest) =
      ((fs.map fun f => (f.header, f.body)).filter fun p => sha1 p.2 = p.1.arrBodySHA1, rest) := by
  have hd : refParser.Drains (fs.flatMap Frame.toBytes ++ rest) (fs.map fun f => (f.header, f.body)) rest :=
    Cutter.Drains.flatMap (fun f _ m => refCut_toBytes f m) (if_pos hrest)
  obtain ⟨h1, h2⟩ := (refParser.parse_drains _).det hd
  rw [refParse, h1, h2]

/-- The frames handled and the bytes left are those of the reference parse of the whole stream,
however the stream is cut into reads. -/
theorem receiveAll_eq_refParse (mem : Field readStoreLen) {chunks : List (List UInt8)}
    (hstream : chunks.flatten = stream) (hheaders : HeadersFit stream)
    (hfits : Fits (recorder sha1) chunks (Buffer.new mem) []) :
    ∃ b, receiveAll (recorder sha1) chunks (Buffer.new mem) [] = some (b, (refParse sha1 stream).1) ∧
      b.data = (refParse sha1 stream).2 ∧ b.data <:+ stream ∧
      ∃ f : Frame, b.data <+: f.toBytes ∧ b.data.length < f.toBytes.length := by
  have href := refParser.parse_drains stream
  have hcode : codeCutter.Drains stream (refParser.parse stream).1 (refParser.parse stream).2 :=
    Cutter.Drains.congr (c := refParser.toCutter) (fun l hl => codeCut_eq_refCut (hheaders l hl)) href
  obtain ⟨b, hr, -, hdata⟩ := receiveAll_of_drains (s := []) (IsReadStore.new mem) rfl hfits
    (by rwa [Buffer.new_data, List.nil_append, hstream])
  rw [recorder_foldl, List.nil_append] at hr
  refine ⟨b, hr, hdata, ?_, ?_⟩
  · rw [hdata]
    exact hcode.reaches.suffix codeCut_suffix
  · rw [hdata]
    exact refCut_eq_none href.rest

theorem receiveAll_eq_refParse_split_header :
    ∃ b, receiveAll (recorder fun _ => zeros 20)
        [APIProtoHeader.init.toBytes.take 10, [], APIProtoHeader.init.toBytes.drop 10 ++ [70]]
        (Buffer.new (zeros readStoreLen)) [] =
          some (b, [(APIProtoHeader.init, [])]) ∧ b.data = [70] := by
  let f : Frame := ⟨APIProtoHeader.init, [], rfl⟩
  have hrest : ([70] : List UInt8).length < 44 := by decide
  have hheaders : HeadersFit ([f].flatMap Frame.toBytes ++ [70]) :=
    headersFit_flatMap (fun g hg => by rw [List.mem_singleton.1 hg]; exact Nat.zero_le _) hrest
  have hfits : Fits (recorder fun _ => zeros 20)
      [APIProtoHeader.init.toBytes.take 10, [], APIProtoHeader.init.toBytes.drop 10 ++ [70]]
      (Buffer.new (zeros readStoreLen)) [] :=
    fits_of_length_le (IsReadStore.new _) (by decide)
  have hstream : [APIProtoHeader.init.toBytes.take 10, [], APIProtoHeader.init.toBytes.drop 10 ++ [70]].flatten =
      [f].flatMap Frame.toBytes ++ [70] := by decide
  obtain ⟨b, hr, hdata, -⟩ := receiveAll_eq_refParse _ hstream hheaders hfits
  rw [refParse_flatMap hrest] at hr hdata
  exact ⟨b, hr, hdata⟩

end
end FutuOpenD

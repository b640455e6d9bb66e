import FutuOpenD.SessionReads
import FutuOpenD.Shown

/-!
# The console (`QuoteHandler.cpp`)

`printer` is the handler that `main` installs, as far as it prints. For every frame it prints the lines that
the frame is to show (`frameShows_frameLines`). `Outside.parsing` is the program with its own parser, and there
the two models of the handler agree on what was parsed (`printer_notes`).
-/

namespace FutuOpenD
open Bytes Wire Runs Framing

namespace ResponseFields
variable {σ : Type} [Generated σ]

def retLine (rsp : ResponseFields σ) : Line := .ret rsp.getRetType rsp.getRetMsg

end ResponseFields

section
variable (L : InputLib) {σ : Type} [Generated σ]

/-- A handler that prints its title, and `lines` for a response that `ParsePb` accepts. -/
def printRsp (title : String) (lines : ResponseFields σ → List Line) (header : APIProtoHeader) (pData : List UInt8)
    (nLen : Int32) (out : List Line) : List Line :=
  let out := out ++ [.title title]
  match Generated.parseFromArray L pData nLen with
  | none => out ++ [.parseError header.nProtoID]
  | some rsp => out ++ lines rsp

def GetGlobalState.lines (rsp : GetGlobalState.ResponseFields) : List Line :=
  [.retServerVer rsp.getRetType rsp.getRetMsg (rsp.getS2C.serverVer.getD 0)]

def Qot_UpdateTicker.lines (rsp : Qot_UpdateTicker.ResponseFields) : List Line :=
  rsp.retLine :: if rsp.getRetType ≠ 0 then [] else
    rsp.getS2C.tickerList.map fun data =>
      .ticker ((rsp.getS2C.security.getD {}).code.getD []) (data.time.getD []) (data.price.getD 0)

def Qot_UpdateBroker.lines (rsp : Qot_UpdateBroker.ResponseFields) : List Line :=
  rsp.retLine :: if rsp.getRetType ≠ 0 then [] else rsp.getS2C.askList.map fun data => .broker (data.id.getD 0)

def Qot_UpdateOrderBook.lines (rsp : Qot_UpdateOrderBook.ResponseFields) : List Line :=
  rsp.retLine :: if rsp.getRetType ≠ 0 then [] else rsp.getS2C.askList.map fun data => .price (data.price.getD 0)

/-- The lines for a reply that is parsed. -/
def Reply.lines : Reply → List Line
  | .initConnect rsp => [rsp.retLine]
  | .globalState rsp => GetGlobalState.lines rsp
  | .qotSub rsp => [rsp.retLine]
  | .qotRegQotPush rsp => [rsp.retLine]
  | .qotUpdateTicker rsp => Qot_UpdateTicker.lines rsp
  | .qotUpdateBroker rsp => Qot_UpdateBroker.lines rsp
  | .qotUpdateOrderBook rsp => Qot_UpdateOrderBook.lines rsp

def printer : IProtoHandler (List Line) where
  onRspInitConnect := printRsp L "OnRsp_InitConnect: " fun rsp : InitConnect.ResponseFields => [rsp.retLine]
  onRspKeepAlive := fun _ _ _ out => out ++ [.title "OnRsp_KeepAlive: "]
  onRspGetGlobalState := printRsp L "OnRsp_GetGlobalState: " GetGlobalState.lines
  onRspQotSub := printRsp L "OnRsp_Qot_Sub: " fun rsp : Qot_Sub.ResponseFields => [rsp.retLine]
  onRspQotRegQotPush := printRsp L "OnRsp_Qot_RegQotPush:" fun rsp : Qot_RegQotPush.ResponseFields => [rsp.retLine]
  onRspQotUpdateTicker := printRsp L "OnRsp_Qot_UpdateTicker:" Qot_UpdateTicker.lines
  onRspQotUpdateBroker := printRsp L "OnRsp_Qot_UpdateBroker:" Qot_UpdateBroker.lines
  onRspQotUpdateOrderBook := printRsp L "OnRsp_Qot_UpdateOrderBook:" Qot_UpdateOrderBook.lines

/-- What is printed when something is noted. What the handlers note they print with the frame. -/
def Obs.prints : Obs → List Line
  | .frame header pBody => handlePacket (printer L) header pBody header.nBodyLen.toInt32 []
  | .shaCheckFail => [.shaCheckFail]
  | .netError nUvErr => [.netError nUvErr]
  | .disconnected => [.disconnected]
  | _ => []

/-- What `NetCenter` and the handlers print. -/
def NetCenter.console (n : NetCenter) : List Line := n.trace.flatMap (Obs.prints L)

end

/-- What is noted with a line. -/
def Line.toNote (text : List UInt8 → String) : Line → Option Obs
  | .parseError nProtoID => some (.parseError nProtoID)
  | .ret retType retMsg => some (.ret retType (text retMsg))
  | .retServerVer retType retMsg _ => some (.ret retType (text retMsg))
  | _ => none

/-- What is printed for a frame that is taken off the stream. -/
def frameLines (L : InputLib) (W : Outside) (f : APIProtoHeader × List UInt8) : List Line :=
  if W.sha1 f.2 = f.1.arrBodySHA1 then handlePacket (printer L) f.1 f.2 f.1.nBodyLen.toInt32 [] else [.shaCheckFail]

section
variable {L : InputLib} {text : List UInt8 → String} {W : Outside} {σ : Type} [Generated σ]
variable {title : String} {lines : ResponseFields σ → List Line}

theorem toNote_printRsp
    (hlines : ∀ rsp, (lines rsp).filterMap (Line.toNote text) = [.ret rsp.getRetType (text rsp.getRetMsg)])
    {parse : List UInt8 → Int32 → Option Response} {pData : List UInt8} {nLen : Int32}
    (hparse : parse pData nLen = (Generated.parseFromArray L pData nLen).map fun rsp : ResponseFields σ =>
      ⟨rsp.getRetType, text rsp.getRetMsg⟩) (header : APIProtoHeader) :
    (printRsp L title lines header pData nLen []).filterMap (Line.toNote text) = noteRsp parse header pData nLen [] := by
  unfold printRsp noteRsp
  rw [hparse]
  cases (Generated.parseFromArray L pData nLen : Option (ResponseFields σ)) with
  | none => rfl
  | some rsp => exact hlines rsp

theorem toNote_ret_cons {retType : Int32} {retMsg : List UInt8} {l : List Line}
    (hl : ∀ line ∈ l, line.toNote text = none) :
    (Line.ret retType retMsg :: l).filterMap (Line.toNote text) = [.ret retType (text retMsg)] :=
  congrArg (Obs.ret retType (text retMsg) :: ·) (List.filterMap_eq_nil_iff.2 hl)

/-- What holds of the line of each entry holds of all lines about what was pushed. -/
theorem forall_mem_pushed {α : Type} {p : Prop} [Decidable p] {l : List α} {line : α → Line} {P : Line → Prop}
    (hline : ∀ x, P (line x)) : ∀ y ∈ if p then [] else l.map line, P y := by
  intro y hy
  split_ifs at hy
  · cases hy
  · obtain ⟨x, -, rfl⟩ := List.mem_map.1 hy
    exact hline x

theorem parse_toResponse {f : ResponseFields σ → Reply}
    (hf : ∀ rsp, (f rsp).toResponse text = ⟨rsp.getRetType, text rsp.getRetMsg⟩) (pData : List UInt8) (nLen : Int32) :
    ((Generated.parseFromArray L pData nLen).map f).map (Reply.toResponse text) =
      (Generated.parseFromArray L pData nLen).map fun rsp : ResponseFields σ =>
        ⟨rsp.getRetType, text rsp.getRetMsg⟩ := by
  rw [Option.map_map]
  exact Option.map_congr fun rsp _ => hf rsp

/-- Of the lines that are printed for a frame, those about the response are what the handler notes. -/
theorem printer_notes (header : APIProtoHeader) (pData : List UInt8) (nLen : Int32) :
    (handlePacket (printer L) header pData nLen []).filterMap (Line.toNote text) =
      handlePacket (noting (W.parsing L text)) header pData nLen [] := by
  unfold handlePacket
  split_ifs
  · refine toNote_printRsp (fun _ => rfl) ?_ header
    exact Option.map_map ..
  · exact toNote_printRsp (fun _ => rfl) (parse_toResponse (f := .globalState) (fun _ => rfl) ..) header
  · exact toNote_printRsp (fun _ => rfl) (parse_toResponse (f := .qotSub) (fun _ => rfl) ..) header
  · exact toNote_printRsp (fun _ => toNote_ret_cons (forall_mem_pushed fun _ => rfl))
      (parse_toResponse (f := .qotUpdateTicker) (fun _ => rfl) ..) header
  · exact toNote_printRsp (fun _ => rfl) (parse_toResponse (f := .qotRegQotPush) (fun _ => rfl) ..) header
  · rfl
  · exact toNote_printRsp (fun _ => toNote_ret_cons (forall_mem_pushed fun _ => rfl))
      (parse_toResponse (f := .qotUpdateBroker) (fun _ => rfl) ..) header
  · exact toNote_printRsp (fun _ => toNote_ret_cons (forall_mem_pushed fun _ => rfl))
      (parse_toResponse (f := .qotUpdateOrderBook) (fun _ => rfl) ..) header
  · rfl

theorem isReport_printRsp (hlines : ∀ rsp, ∀ line ∈ lines rsp, line.isReport = false) {header : APIProtoHeader}
    {pData : List UInt8} {nLen : Int32} {line : Line} (h : line ∈ printRsp L title lines header pData nLen []) :
    line.isReport = false := by
  unfold printRsp at h
  rw [List.nil_append] at h
  cases hrsp : (Generated.parseFromArray L pData nLen : Option (ResponseFields σ)) with
  | none =>
    rw [hrsp] at h
    rcases List.mem_append.1 h with h | h <;> rw [List.mem_singleton.1 h] <;> rfl
  | some rsp =>
    rw [hrsp] at h
    rcases List.mem_append.1 h with h | h
    · rw [List.mem_singleton.1 h]
      rfl
    · exact hlines rsp line h

theorem isReport_ret {retType : Int32} {retMsg : List UInt8} :
    ∀ line ∈ [Line.ret retType retMsg], line.isReport = false := by simp [Line.isReport]

theorem isReport_pushed {α : Type} {p : Prop} [Decidable p] {retType : Int32} {retMsg : List UInt8} {l : List α}
    {line : α → Line} (hline : ∀ x, (line x).isReport = false) :
    ∀ y ∈ Line.ret retType retMsg :: if p then [] else l.map line, y.isReport = false :=
  List.forall_mem_cons.2 ⟨rfl, forall_mem_pushed hline⟩

/-- The handlers print nothing about the connection. -/
theorem isReport_printer {header : APIProtoHeader} {pData : List UInt8} {nLen : Int32} {line : Line}
    (h : line ∈ handlePacket (printer L) header pData nLen []) : line.isReport = false := by
  unfold handlePacket at h
  split_ifs at h
  · exact isReport_printRsp (fun _ => isReport_ret) h
  · exact isReport_printRsp (by simp [GetGlobalState.lines, Line.isReport]) h
  · exact isReport_printRsp (fun _ => isReport_ret) h
  · exact isReport_printRsp (fun _ => isReport_pushed fun _ => rfl) h
  · exact isReport_printRsp (fun _ => isReport_ret) h
  · rw [List.mem_singleton.1 h]
    rfl
  · exact isReport_printRsp (fun _ => isReport_pushed fun _ => rfl) h
  · exact isReport_printRsp (fun _ => isReport_pushed fun _ => rfl) h
  · cases h

/-! ### The right lines -/

theorem reports_of_isInitialized {rsp : ResponseFields σ} (h : Generated.isInitialized rsp = true) :
    rsp.Reports rsp.getRetType rsp.getRetMsg := by
  obtain ⟨hret, -⟩ := isInitialized_response.1 h
  obtain ⟨retType, hret⟩ := Option.isSome_iff_exists.1 hret
  refine ⟨?_, ?_⟩
  · rw [ResponseFields.getRetType, hret]
    rfl
  · cases hmsg : rsp.retMsg with
    | none => exact .inr ⟨rfl, by rw [ResponseFields.getRetMsg, hmsg]; rfl⟩
    | some msg => exact .inl (by rw [ResponseFields.getRetMsg, hmsg]; rfl)

theorem showsResult_retLine {rsp : ResponseFields σ} (h : Generated.isInitialized rsp = true) :
    rsp.ShowsResult [rsp.retLine] := ⟨_, _, reports_of_isInitialized h, rfl⟩

theorem showsPushed {pushed : σ → List Line → Prop} {rsp : ResponseFields σ} {entries : List Line}
    (h : Generated.isInitialized rsp = true) (hnone : rsp.s2c = none → entries = [])
    (hsome : ∀ s2c, rsp.s2c = some s2c → Generated.isInitialized s2c = true → pushed s2c entries) :
    rsp.ShowsPushed pushed (rsp.retLine :: if rsp.getRetType ≠ 0 then [] else entries) := by
  have hreports := reports_of_isInitialized h
  unfold ResponseFields.retLine
  split_ifs with hret
  · exact .failure hreports hret
  · rw [not_not.1 hret] at hreports ⊢
    cases hs2c : rsp.s2c with
    | none =>
      rw [hnone hs2c]
      exact .nothing hreports hs2c
    | some s2c => exact .entries hreports hs2c (hsome s2c hs2c ((isInitialized_response.1 h).2 s2c hs2c))

theorem forall₂_map {α β : Type} {shows : α → β → Prop} {line : α → β} {l : List α}
    (h : ∀ x ∈ l, shows x (line x)) : List.Forall₂ shows l (l.map line) :=
  List.forall₂_map_right_iff.2 (List.forall₂_same.2 h)

theorem shows_globalState {rsp : GetGlobalState.ResponseFields} (h : Generated.isInitialized rsp = true) :
    GetGlobalState.Shows rsp (GetGlobalState.lines rsp) := by
  refine ⟨_, _, _, reports_of_isInitialized h, ?_, rfl⟩
  unfold ResponseFields.getS2C
  cases hs2c : rsp.s2c with
  | none => exact .inl ⟨rfl, rfl⟩
  | some s2c => exact .inr ⟨s2c, rfl, required_eq_some (i := 7) rfl ((isInitialized_response.1 h).2 s2c hs2c) 0⟩

theorem shows_updateTicker {rsp : Qot_UpdateTicker.ResponseFields} (h : Generated.isInitialized rsp = true) :
    rsp.ShowsPushed Qot_UpdateTicker.Pushes (Qot_UpdateTicker.lines rsp) := by
  refine showsPushed h (fun hs2c => by rw [ResponseFields.getS2C, hs2c]; rfl) fun s2c hs2c hinit => ?_
  obtain ⟨⟨hsome, hsecurity⟩, hlist⟩ := isInitialized_updateTicker.1 hinit
  obtain ⟨security, hsec⟩ := Option.isSome_iff_exists.1 hsome
  rw [ResponseFields.getS2C, hs2c, Option.getD_some, hsec, Option.getD_some]
  refine ⟨security, _, hsec, required_eq_some (i := 1) rfl (hsecurity security hsec) [], forall₂_map fun data hdata => ?_⟩
  exact ⟨_, _, required_eq_some (i := 0) rfl (hlist data hdata) [], required_eq_some (i := 3) rfl (hlist data hdata) 0, rfl⟩

/-- An update with lists of asks and bids shows the asks. -/
theorem shows_askList {shows : σ → Line → Prop} {line : σ → Line}
    (hline : ∀ data, Generated.isInitialized data = true → shows data (line data))
    {rsp : ResponseFields (AskBidFields σ)} (h : Generated.isInitialized rsp = true) :
    rsp.ShowsPushed (fun s2c => List.Forall₂ shows s2c.askList)
      (rsp.retLine :: if rsp.getRetType ≠ 0 then [] else rsp.getS2C.askList.map line) := by
  refine showsPushed h (fun hs2c => by rw [ResponseFields.getS2C, hs2c]; rfl) fun s2c hs2c hinit => ?_
  obtain ⟨-, hlist, -⟩ := isInitialized_askBid.1 hinit
  rw [ResponseFields.getS2C, hs2c, Option.getD_some]
  exact forall₂_map fun data hdata => hline data (hlist data hdata)

/-- For a reply that lacks no required field the handlers print what it is to show. -/
theorem Reply.shows_lines {r : Reply} (h : r.isInitialized = true) : r.Shows r.lines := by
  cases r with
  | initConnect rsp => exact showsResult_retLine h
  | globalState rsp => exact shows_globalState h
  | qotSub rsp => exact showsResult_retLine h
  | qotRegQotPush rsp => exact showsResult_retLine h
  | qotUpdateTicker rsp => exact shows_updateTicker h
  | qotUpdateBroker rsp => exact shows_askList (fun data h => ⟨_, required_eq_some (i := 0) rfl h 0, rfl⟩) h
  | qotUpdateOrderBook rsp => exact shows_askList (fun data h => ⟨_, required_eq_some (i := 0) rfl h 0, rfl⟩) h

/-- `ParsePb` accepts a message only if no required field is missing. -/
theorem isInitialized_of_parseFromArray {μ : Type} [Generated μ] {pData : List UInt8} {nLen : Int32} {m : μ}
    (h : Generated.parseFromArray L pData nLen = some m) : Generated.isInitialized m = true := by
  obtain ⟨r, -, hr⟩ := Option.bind_eq_some_iff.1 h
  obtain ⟨hend, hm⟩ := Option.ite_none_right_eq_some.1 hr
  cases hm
  exact (Bool.and_eq_true_iff.1 hend).1

/-- A handler prints what a frame of its protocol is to show. -/
theorem frameShows_printRsp {header : APIProtoHeader} {pBody : List UInt8} {f : ResponseFields σ → Reply}
    (hsha : W.sha1 pBody = header.arrBodySHA1) (hid : header.nProtoID = (f {}).protoID)
    (hparse : Reply.parseAs L (f {}).protoID pBody header.nBodyLen.toInt32 =
      (Generated.parseFromArray L pBody header.nBodyLen.toInt32).map f)
    (htitle : ∀ rsp, (f rsp).title = title)
    (hlines : ∀ rsp, Generated.isInitialized rsp = true → (f rsp).Shows (lines rsp)) :
    FrameShows L W (header, pBody) (printRsp L title lines header pBody header.nBodyLen.toInt32 []) := by
  unfold printRsp
  rw [← hid] at hparse
  cases hrsp : (Generated.parseFromArray L pBody header.nBodyLen.toInt32 : Option (ResponseFields σ)) with
  | none =>
    rw [hrsp] at hparse
    rw [← htitle {}]
    exact .refused hsha hid hparse
  | some rsp =>
    rw [hrsp] at hparse
    rw [← htitle rsp]
    exact .reply hsha hparse (hlines rsp (isInitialized_of_parseFromArray hrsp))

/-- What is printed for a frame is what it is to show. -/
theorem frameShows_frameLines (f : APIProtoHeader × List UInt8) : FrameShows L W f (frameLines L W f) := by
  obtain ⟨header, pBody⟩ := f
  unfold frameLines
  split_ifs with hsha
  · unfold handlePacket
    split_ifs with hinit hstate hsub hticker hreg hbeat hbroker hbook
    · exact frameShows_printRsp (f := .initConnect) hsha hinit rfl (fun _ => rfl) fun _ h => Reply.shows_lines h
    · exact frameShows_printRsp (f := .globalState) hsha hstate rfl (fun _ => rfl) fun _ h => Reply.shows_lines h
    · exact frameShows_printRsp (f := .qotSub) hsha hsub rfl (fun _ => rfl) fun _ h => Reply.shows_lines h
    · exact frameShows_printRsp (f := .qotUpdateTicker) hsha hticker rfl (fun _ => rfl) fun _ h => Reply.shows_lines h
    · exact frameShows_printRsp (f := .qotRegQotPush) hsha hreg rfl (fun _ => rfl) fun _ h => Reply.shows_lines h
    · exact .keepAlive hsha hbeat
    · exact frameShows_printRsp (f := .qotUpdateBroker) hsha hbroker rfl (fun _ => rfl) fun _ h => Reply.shows_lines h
    · exact frameShows_printRsp (f := .qotUpdateOrderBook) hsha hbook rfl (fun _ => rfl) fun _ h => Reply.shows_lines h
    · refine .unknown hsha ?_
      simp only [handledProtoIDs, List.mem_cons, List.not_mem_nil, not_or, or_false]
      exact ⟨hinit, hstate, hbeat, hsub, hreg, hticker, hbroker, hbook⟩
  · exact .shaCheckFail hsha

theorem prints_of_isNote {o : Obs} (h : o.isNote = true) : o.prints L = [] := by
  cases o <;> first | rfl | cases h

theorem prints_frameReads (f : APIProtoHeader × List UInt8) :
    (frameReads W f).flatMap (Obs.prints L) = frameLines L W f := by
  unfold frameReads frameLines
  split_ifs
  · have hnotes : (handlePacket (noting W) f.1 f.2 f.1.nBodyLen.toInt32 []).flatMap (Obs.prints L) = [] :=
      List.flatMap_eq_nil_iff.2 fun o ho => prints_of_isNote (isNote_noting ho)
    rw [List.flatMap_cons, hnotes]
    exact List.append_nil _
  · rfl

/-- Apart from failures of the connection, what is printed is about frames. -/
theorem console_filter (n : NetCenter) :
    (n.console L).filter (fun line => !line.isReport) = n.reads.flatMap (Obs.prints L) := by
  unfold NetCenter.console NetCenter.reads
  induction n.trace with
  | nil => rfl
  | cons o l ih =>
    have hframe : ∀ header pBody, (Obs.prints L (.frame header pBody)).filter (fun line => !line.isReport) =
        Obs.prints L (.frame header pBody) := fun header pBody =>
      List.filter_eq_self.2 fun line hline => by rw [isReport_printer hline]; rfl
    rw [List.flatMap_cons, List.filter_append, ih]
    cases o with
    | frame header pBody =>
      rw [hframe]
      rfl
    | _ => rfl

theorem Follows.console {start s : Session} {es : List SessionEvent} {fs : List (APIProtoHeader × List UInt8)}
    (h : Follows W start es s fs) :
    (s.handler.net.console L).filter (fun line => !line.isReport) = fs.flatMap (frameLines L W) := by
  rw [console_filter, h.reads, List.flatMap_assoc]
  exact congrArg (fs.flatMap ·) (funext prints_frameReads)

theorem notes_frameReads (f : APIProtoHeader × List UInt8) :
    (frameReads (W.parsing L text) f).filter Obs.isNote =
      (frameLines L (W.parsing L text) f).filterMap (Line.toNote text) := by
  unfold frameReads frameLines
  split_ifs
  · rw [printer_notes (W := W)]
    exact List.filter_eq_self.2 fun o ho => isNote_noting ho
  · rfl

/-- The trace and the console tell the same of the responses. -/
theorem Follows.notes {start s : Session} {es : List SessionEvent} {fs : List (APIProtoHeader × List UInt8)}
    (h : Follows (W.parsing L text) start es s fs) :
    (s.handler.net.console L).filterMap (Line.toNote text) = s.handler.net.trace.filter Obs.isNote := by
  have hlines : (s.handler.net.console L).filterMap (Line.toNote text) =
      ((s.handler.net.console L).filter fun line => !line.isReport).filterMap (Line.toNote text) := by
    rw [List.filterMap_filter]
    refine List.filterMap_congr fun line _ => ?_
    cases line <;> rfl
  have hreads : s.handler.net.trace.filter Obs.isNote = s.handler.net.reads.filter Obs.isNote := by
    rw [NetCenter.reads, List.filter_filter]
    refine List.filter_congr fun o _ => ?_
    cases o <;> rfl
  rw [hlines, hreads, h.console, h.reads]
  clear hlines hreads h
  induction fs with
  | nil => rfl
  | cons f fs ih =>
    rw [List.flatMap_cons, List.flatMap_cons, List.filterMap_append, List.filter_append, ih, notes_frameReads]

/-- While every header that is reached announces a frame that fits the read store, the console shows the frames of
the reference parse, one after the other. What the trace says of the responses is read off it. -/
theorem console_shows_reference {mem : Field readStoreLen} {es : List SessionEvent} {s : Session}
    (hr : (sessionMachine (W.parsing L text)).run (.start (W.parsing L text) mem) es = some s)
    (hdone : s.inRecv = false) (hheaders : HeadersFit (receivedInSession es)) :
    (∃ blocks, List.Forall₂ (FrameShows L (W.parsing L text)) (refParser.parse (receivedInSession es)).1 blocks ∧
      (s.handler.net.console L).filter (fun line => !line.isReport) = blocks.flatten) ∧
      (s.handler.net.console L).filterMap (Line.toNote text) = s.handler.net.trace.filter Obs.isNote := by
  obtain ⟨fs, h⟩ := Follows.run hr
  obtain ⟨rfl, -⟩ := (h.taken.drains (h.waits hdone)).det (drains_refParser hheaders)
  refine ⟨⟨_, forall₂_map fun f _ => frameShows_frameLines f, ?_⟩, h.notes⟩
  rw [h.console, List.flatMap_def]

/-- An update of the order book at the price of 26543.21. -/
def bookUpdate : Reply :=
  .qotUpdateOrderBook ⟨some 0, none, none,
    some ⟨some ⟨some 1, some [48, 48, 55, 48, 48]⟩, [⟨some 4673025355964208906, some 100, some 3⟩], []⟩⟩

theorem length_bookUpdate : (encode bookUpdate.records).length = 30 := by decide +kernel

theorem nBodyLen_bookUpdate : bookUpdate.header.nBodyLen = 30 := by
  show UInt32.ofNat (encode bookUpdate.records).length = 30
  rw [length_bookUpdate]
  rfl

/-- The update, with its digest or with another one. -/
def bookFrame (digest : Field 20) : Frame :=
  ⟨{ bookUpdate.header with arrBodySHA1 := digest }, encode bookUpdate.records,
    length_bookUpdate.trans (congrArg UInt32.toNat nBodyLen_bookUpdate).symm⟩

theorem fits_bookFrame (digest : Field 20) : (bookFrame digest).Fits := by
  show bookUpdate.header.nBodyLen.toNat ≤ 10485716
  rw [nBodyLen_bookUpdate]
  decide

def bookStream : List UInt8 :=
  (bookFrame (bodySha1 (zeros 64) (encode bookUpdate.records))).toBytes ++ (bookFrame (zeros 20)).toBytes

/-- The update comes in two reads, and a copy of it with a wrong digest. -/
def bookReads : List SessionEvent :=
  [.recv (.read (bookStream.take 40)), .recv .pass, .recv (.read (bookStream.drop 40)), .recv .pass, .recv .pass,
    .recv .pass]

theorem console_shows_reference_book :
    ∃ s, (sessionMachine .program).run (.start .program (zeros readStoreLen)) bookReads = some s ∧
      (s.handler.net.console .plain).filter (fun line => !line.isReport) =
        [.title "OnRsp_Qot_UpdateOrderBook:", .ret 0 [], .price 4673025355964208906, .shaCheckFail] ∧
      ∃ blocks, List.Forall₂ (FrameShows .plain .program) [(bookUpdate.header, encode bookUpdate.records),
          ({ bookUpdate.header with arrBodySHA1 := zeros 20 }, encode bookUpdate.records)] blocks ∧
        (s.handler.net.console .plain).filter (fun line => !line.isReport) = blocks.flatten := by
  obtain ⟨s, hr, hresult⟩ : ∃ s, (sessionMachine .program).run (.start .program (zeros readStoreLen)) bookReads = some s ∧
      (s.inRecv, (s.handler.net.console .plain).filter fun line => !line.isReport) = (false,
        [.title "OnRsp_Qot_UpdateOrderBook:", .ret 0 [], .price 4673025355964208906, .shaCheckFail]) :=
    Option.map_eq_some_iff.1 (by decide +kernel)
  obtain ⟨hdone, hlines⟩ := Prod.mk.inj hresult
  let fs : List Frame := [bookFrame (bodySha1 (zeros 64) (encode bookUpdate.records)), bookFrame (zeros 20)]
  have hfits : ∀ f ∈ fs, f.Fits := by simp [fs, fits_bookFrame]
  have hreceived : receivedInSession bookReads = fs.flatMap Frame.toBytes ++ [] := by decide +kernel
  have hheaders : HeadersFit (receivedInSession bookReads) := by
    rw [hreceived]
    exact headersFit_flatMap hfits (by decide)
  have hparse : (refParser.parse (receivedInSession bookReads)).1 = fs.map fun f => (f.header, f.body) := by
    decide +kernel
  obtain ⟨hblocks, -⟩ := console_shows_reference hr hdone hheaders
  rw [hparse] at hblocks
  exact ⟨s, hr, hlines, hblocks⟩

end
end FutuOpenD

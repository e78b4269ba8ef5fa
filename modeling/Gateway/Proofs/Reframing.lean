import Gateway.Proofs.Exchange
import Gateway.Proofs.Request
import Gateway.Proofs.Routing

/-!
# The request that a backend sees

A request is framed anew for a backend, from a method token, a target and a body that the client
chose.  Reading the framed bytes gives them back, and nothing that the client wrote adds a header or
a second request.

The reason is that the token and the target are words of the client's request line, so they hold no
blank and in particular no line end (`tokenised_of_parse`).  Routing keeps that, since it brings in
no character (`Route.solid_of_ofTarget`).  So the framed bytes are a message in the sense of the
framing (`frame_eq_message`): four lines of which none can end the head early, the blank line and
the body, whose length the third line declares.
-/

namespace Gateway

open Gateway.Http

namespace Http

namespace Request

/-! ## Words of the request line -/

/-- A request whose method and target can be words of a request line. -/
structure Tokenised (r : Request) : Prop where
  token_ne_nil : r.method.token ≠ []
  solid_token : Text.Solid r.method.token
  ofToken_token : Method.ofToken r.method.token = r.method
  target_ne_nil : r.target ≠ []
  solid_target : Text.Solid r.target

/-- What is read has words for its method and its target. -/
theorem tokenised_of_parse {bytes : Bytes} {r : Request} (h : parse bytes = .ok r) :
    r.Tokenised := by
  obtain ⟨q, hq, rfl⟩ := parse_eq_ok_iff.mp h
  obtain ⟨method, target, more, hwords, rfl⟩ := ofHead_eq_ok hq
  obtain ⟨line, -, hline⟩ := Option.map_eq_some_iff.mp hwords
  have hsolid := Text.solid_of_mem_words (t := Text.dropEndWhile (· == '\r') line)
  rw [hline] at hsolid
  obtain ⟨hmne, hm⟩ := hsolid method List.mem_cons_self
  obtain ⟨htne, ht⟩ := hsolid target (List.mem_cons_of_mem method List.mem_cons_self)
  have htoken : (Method.ofToken method).token = method := Method.token_ofToken method
  constructor
  · show (Method.ofToken method).token ≠ []
    rw [htoken]
    exact hmne
  · show Text.Solid (Method.ofToken method).token
    rw [htoken]
    exact hm
  · exact congrArg Method.ofToken htoken
  · exact htne
  · exact ht

/-- Routing keeps them words. -/
theorem Tokenised.withTarget {r : Request} (h : r.Tokenised) {p : Text}
    (hp : Route.ofTarget r.target = .proxy p) : (r.withTarget p).Tokenised where
  token_ne_nil := h.token_ne_nil
  solid_token := h.solid_token
  ofToken_token := h.ofToken_token
  target_ne_nil := (Route.solid_of_ofTarget h.solid_target hp).1
  solid_target := (Route.solid_of_ofTarget h.solid_target hp).2

/-! ## Reading a head that was put together -/

/-- The words of the first line are found. -/
theorem requestWords?_joinLines {l : Text} (h : Framing.IsLine l) (l' : Text) (ls : List Text) :
    requestWords? ((Utf8.encode (Framing.joinLines (l :: l' :: ls))).takeWhile (· != lineFeed))
      = some (Text.words l) := by
  rw [Framing.joinLines, Framing.encode_append_lineEnd, takeWhile_encode_lineEnd h, requestWords?,
    Utf8.decode?_encode, Option.map_some, Text.dropEndWhile_carriageReturn h.cr]

/-- A head of lines is read line by line. -/
theorem ofHead_joinLines {l l' : Text} {ls : List Text}
    (h : ∀ x ∈ l :: l' :: ls, Framing.IsLine x) {method target version : Text}
    (hwords : Text.words l = [method, target, version]) :
    ofHead (Utf8.encode (Framing.joinLines (l :: l' :: ls)))
      = .ok { method := .ofToken method
              target
              version
              headers := Headers.ofList ((l' :: ls).filterMap headerField?)
              body := []
              truncated := false } := by
  rw [ofHead, requestWords?_joinLines (h l List.mem_cons_self), hwords, fields,
    Framing.fieldLines_encode_joinLines h]
  rfl

end Request

end Http

namespace Proxy

/-! ## The framed request -/

/-- The lines that a request is framed with. -/
def frameLines (r : Request) (host : Text) : List Text :=
  [r.method.token ++ ' ' :: (r.target ++ ' ' :: "HTTP/1.1".toList),
    "Host".toList ++ ':' :: ' ' :: host,
    "Content-Length".toList ++ ':' :: ' ' :: Numeral.decimal r.body.length,
    "Connection".toList ++ ':' :: ' ' :: "close".toList]

/-- The headers that are read from them. -/
def frameFields (r : Request) (host : Text) : List (Text × Text) :=
  [("Host".toList, host), ("Content-Length".toList, Numeral.decimal r.body.length),
    ("Connection".toList, "close".toList)]

theorem frameHead_eq {r : Request} (h : r.target ≠ []) (host : Text) :
    frameHead r host = Framing.joinLines (frameLines r host) ++ "\r\n\r\n".toList := by
  rw [frameHead, if_neg h, frameLines]
  simp [Framing.joinLines]

/-- What is sent to a backend is a message of these lines. -/
theorem frame_eq_message {s : Settings} {r : Request} {url : Url} {out : Bytes}
    (ht : r.target ≠ []) (h : frame s r url = .ok out) :
    ∃ host, hostField? url = some host ∧ out = Framing.message (frameLines r host) r.body ∧
      out.length ≤ s.maxRequestSize := by
  obtain ⟨host, hhost, rfl, hle⟩ := frame_eq_ok_iff.mp h
  refine ⟨host, hhost, ?_, hle⟩
  rw [framed, frameHead_eq ht, Utf8.encode_append, List.append_assoc]
  rfl

/-- The value for `Host` is solid if the host is. -/
theorem solid_hostField? {url : Url} (h : ∀ t, url.hostText? = some t → Text.Solid t) {host : Text}
    (hhost : hostField? url = some host) : Text.Solid host := by
  obtain ⟨t, ht, rfl⟩ := Option.map_eq_some_iff.mp hhost
  refine Text.solid_append.mpr ⟨h t ht, ?_⟩
  cases url.port with
  | none => exact Text.solid_nil
  | some port => exact Text.solid_cons.mpr ⟨by decide, Numeral.solid_decimal port.toNat⟩

/-- No line of the head ends it early. -/
theorem isLine_frameLines {r : Request} (hr : r.Tokenised) {host : Text}
    (hhost : Text.Solid host) : ∀ l ∈ frameLines r host, Framing.IsLine l := by
  have header : ∀ {name value : Text}, Framing.IsLine (name ++ [':', ' ']) → Text.Solid value →
      Framing.IsLine (name ++ ':' :: ' ' :: value) := by
    intro name value hname hvalue
    have happ := hname.append_solid hvalue
    rwa [List.append_assoc] at happ
  intro l hl
  simp only [frameLines, List.mem_cons, List.not_mem_nil, or_false] at hl
  rcases hl with rfl | rfl | rfl | rfl
  · refine (Framing.IsLine.of_solid hr.token_ne_nil hr.solid_token).append ?_ ?_
    · simp [hr.solid_target.not_mem (b := '\r') (by decide)]
    · simp [hr.solid_target.not_mem (b := '\n') (by decide)]
  · exact header ⟨by decide, by decide, by decide⟩ hhost
  · exact header ⟨by decide, by decide, by decide⟩ (Numeral.solid_decimal _)
  · exact header ⟨by decide, by decide, by decide⟩ (by decide)

theorem words_frameLine {r : Request} (hr : r.Tokenised) :
    Text.words (r.method.token ++ ' ' :: (r.target ++ ' ' :: "HTTP/1.1".toList))
      = [r.method.token, r.target, "HTTP/1.1".toList] := by
  rw [Text.words_append_blank (by decide) _ hr.token_ne_nil hr.solid_token,
    Text.words_append_blank (by decide) _ hr.target_ne_nil hr.solid_target]
  rfl

theorem filterMap_frameLines {r : Request} {host : Text} (hhost : Text.Solid host) :
    ((frameLines r host).drop 1).filterMap Request.headerField? = frameFields r host := by
  have hname : Text.Solid "Host".toList ∧ Text.Solid "Content-Length".toList ∧
      Text.Solid "Connection".toList := by decide
  rw [frameLines, List.drop_succ_cons, List.drop_zero,
    List.filterMap_cons_some (Request.headerField?_append hname.1 (by decide) _),
    List.filterMap_cons_some (Request.headerField?_append hname.2.1 (by decide) _),
    List.filterMap_cons_some (Request.headerField?_append hname.2.2 (by decide) _),
    List.filterMap_nil, hhost.trim_eq, (Numeral.solid_decimal _).trim_eq]
  rfl

/-- The head declares the length of the body. -/
theorem declares_frameLines {r : Request} (hr : r.Tokenised) {host : Text}
    (hhost : Text.Solid host) (hlen : r.body.length < Numeral.limit64) :
    Request.Declares (Utf8.encode (Framing.joinLines (frameLines r host))) r.body.length := by
  have hvalues : Request.lengthValues (Utf8.encode (Framing.joinLines (frameLines r host)))
      = [Numeral.decimal r.body.length] := by
    rw [Request.lengthValues, Request.fields,
      Framing.fieldLines_encode_joinLines (isLine_frameLines hr hhost), filterMap_frameLines hhost]
    rfl
  constructor
  · rw [hvalues]
    exact List.cons_ne_nil _ []
  · intro v hv
    rw [hvalues] at hv
    rw [List.mem_singleton.mp hv]
    exact Numeral.read?_decimal hlen

/-- What a backend reads from a framed request. -/
def reframed (r : Request) (host : Text) : Request :=
  { r with
    version := "HTTP/1.1".toList
    headers := Headers.ofList (frameFields r host)
    truncated := false }

theorem ofHead_frameLines {r : Request} (hr : r.Tokenised) {host : Text}
    (hhost : Text.Solid host) :
    Request.ofHead (Utf8.encode (Framing.joinLines (frameLines r host)))
      = .ok { reframed r host with body := [] } := by
  have hhead := Request.ofHead_joinLines (isLine_frameLines hr hhost) (words_frameLine hr)
  have hfields := filterMap_frameLines (r := r) hhost
  rw [frameLines, List.drop_succ_cons, List.drop_zero] at hfields
  rw [hfields, hr.ofToken_token] at hhead
  exact hhead

/-- A framed request is read as the method, the target and the body that it was framed from. -/
theorem parse_message_frameLines {r : Request} (hr : r.Tokenised) {host : Text}
    (hhost : Text.Solid host) (hlen : r.body.length < Numeral.limit64) :
    Request.parse (Framing.message (frameLines r host) r.body) = .ok (reframed r host) := by
  have hhead := ofHead_frameLines hr hhost
  have hdeclared := (declares_frameLines hr hhost hlen).declaredLength?_eq hhead
  have hne : frameLines r host ≠ [] := List.cons_ne_nil _ _
  have hsplit := Framing.splitHead_message hne (isLine_frameLines hr hhost) r.body
  rw [Request.parse_eq_ok_iff, hsplit]
  refine ⟨_, hhead, ?_⟩
  rw [Request.fill_of_le hdeclared (Nat.le_refl _), List.take_length]
  rfl

/-- A framed request is one whole message. -/
theorem isOneMessage_message_frameLines {r : Request} (hr : r.Tokenised) {host : Text}
    (hhost : Text.Solid host)
    (hlen : (Framing.message (frameLines r host) r.body).length < Numeral.limit64) :
    Framing.IsOneMessage (Framing.message (frameLines r host) r.body) := by
  have hlines := isLine_frameLines hr hhost
  have hbody := Nat.lt_of_le_of_lt (Framing.length_body_le_message _ _) hlen
  have hdeclared := (declares_frameLines hr hhost hbody).findSome?_eq
  rw [Framing.fieldLines_encode_joinLines hlines] at hdeclared
  exact Framing.isOneMessage_message (List.cons_ne_nil _ _) hlines hdeclared hlen

/-- Whatever a client sends, the bytes that its request is framed as for a backend hold one request
and nothing else: with the method and the body of the client, the target of the route, and the three
headers of the gateway.  Sizes are counted in 64 bits, and the host of the URL holds no blanks. -/
theorem frame_no_injection {s : Settings} (hsize : s.maxRequestSize < Numeral.limit64)
    {bytes : Bytes} {r : Request} (hr : Request.parse bytes = .ok r) {p : Text}
    (hp : Route.ofTarget r.target = .proxy p) {url : Url}
    (hurl : ∀ t, url.hostText? = some t → Text.Solid t) {out : Bytes}
    (hout : frame s (r.withTarget p) url = .ok out) :
    out.length ≤ s.maxRequestSize ∧
      (∃ host r', hostField? url = some host ∧ Request.parse out = .ok r' ∧
        r'.method = r.method ∧ r'.target = p ∧ r'.version = "HTTP/1.1".toList ∧
        r'.headers.entries =
          [("Host".toList, host), ("Content-Length".toList, Numeral.decimal r.body.length),
            ("Connection".toList, "close".toList)] ∧
        r'.body = r.body ∧ r'.truncated = false) ∧
      Framing.IsOneMessage out := by
  have htok := (Request.tokenised_of_parse hr).withTarget hp
  obtain ⟨host, hhost, rfl, hle⟩ := frame_eq_message htok.target_ne_nil hout
  have hsolid := solid_hostField? hurl hhost
  have hlen := Nat.lt_of_le_of_lt hle hsize
  have hbody := Nat.lt_of_le_of_lt (Framing.length_body_le_message _ _) hlen
  exact ⟨hle, ⟨host, reframed (r.withTarget p) host, hhost,
    parse_message_frameLines htok hsolid hbody, rfl, rfl, rfl, rfl, rfl, rfl⟩,
    isOneMessage_message_frameLines htok hsolid hlen⟩

/-- A body of blank lines is forwarded as a body. -/
theorem frame_no_injection_blank_lines :
    ∃ r out, Request.parse
        (Utf8.encode "PUT /api/f HTTP/1.1\r\nContent-Length: 4\r\n\r\n\r\n\r\n".toList) = .ok r ∧
      frame {} (r.withTarget "/f".toList)
        { scheme := "http".toList, host := some (.domain "b".toList), port := some 8080,
          path := .segments [[]] } = .ok out ∧
      Framing.IsOneMessage out := by
  have hr : Request.parse
      (Utf8.encode "PUT /api/f HTTP/1.1\r\nContent-Length: 4\r\n\r\n\r\n\r\n".toList)
      = .ok { method := .put
              target := "/api/f".toList
              version := "HTTP/1.1".toList
              headers := Headers.ofList [("Content-Length".toList, "4".toList)]
              body := Utf8.encode "\r\n\r\n".toList
              truncated := false } := by rfl
  have hurl : ∀ t, Url.hostText?
      { scheme := "http".toList, host := some (.domain "b".toList), port := some 8080,
        path := .segments [[]] } = some t → Text.Solid t := by
    intro t ht
    cases ht
    decide
  exact ⟨_, _, hr, rfl,
    (frame_no_injection (s := {}) (by decide) hr (p := "/f".toList) (by decide) hurl rfl).2.2⟩

end Proxy

end Gateway

import Gateway.Server.Handler
import Gateway.Proofs.Capture
import Gateway.Proofs.Delivery
import Gateway.Proofs.Host
import Gateway.Proofs.Reframing
import Gateway.Proofs.Segmentation
import Gateway.Proofs.Wire

/-!
# Through the gateway and back

A request for a backend crosses four boundaries: it is captured from the client, framed for the
backend, and the reply is received and delivered.  At each of them bytes may be cut in any way, and
at none of them one is lost, repeated or taken for another.

`serve_of_message` has the two on the side of the client: a client that starts with a whole message
gets the wire form of what its request is answered with.  `exchange_of_receive` has the two on the
side of the backend.  `relay_transparent` puts them together.

Two kinds of replies do not come through: those whose status is asked for and cannot be read, and
those that declare an end that 64 bits cannot count (`not_relay_transparent`).
-/

namespace Gateway

open Gateway.Http

namespace Server

/-! ## The side of the client -/

/-- What a client sends first: a head that declares the length of a body, the body, and anything
after it.  Head and body are within the limit. -/
structure Sends (limit : Nat) (inlet : Inlet) (head body : Bytes) : Prop where
  /-- Head, blank line and body come first. -/
  isPrefix : head ++ (Framing.blankLine ++ body) <+: inlet.delivered
  headEnd : Framing.headEnd? (head ++ Framing.blankLine) = some head.length
  /-- It declares the length of the body, as often as it likes. -/
  declares : Request.Declares head body.length
  le_limit : (head ++ (Framing.blankLine ++ body)).length ≤ limit

section

variable {limit : Nat} {inlet : Inlet} {head body : Bytes}

theorem Sends.headEnd?_message (h : Sends limit inlet head body) :
    Framing.headEnd? (head ++ (Framing.blankLine ++ body)) = some head.length := by
  rw [← List.append_assoc]
  exact Framing.headEnd?_append h.headEnd body

theorem Sends.splitHead_message (h : Sends limit inlet head body) :
    Framing.splitHead (head ++ (Framing.blankLine ++ body)) = (head, body) := by
  rw [Framing.splitHead_eq h.headEnd?_message, List.take_left, ← List.drop_drop, List.drop_left]
  rfl

/-- What is sent first is a whole message. -/
theorem Sends.isComplete_message (h : Sends limit inlet head body) :
    Framing.isComplete (head ++ (Framing.blankLine ++ body)) = true := by
  have hdeclared : Framing.declaredLength? (head ++ (Framing.blankLine ++ body))
      = some body.length := by
    rw [Framing.declaredLength?_eq_splitHead h.headEnd?_message, h.splitHead_message]
    exact h.declares.findSome?_eq
  refine Framing.isComplete_iff.mpr ⟨_, Framing.messageLength?_eq h.headEnd?_message, ?_⟩
  rw [hdeclared, Option.getD_some, List.length_append, List.length_append, ← Nat.add_assoc]
  exact Framing.messageLength_le _ _

/-- The body of the request is the one that was sent. -/
theorem Sends.body_eq (h : Sends limit inlet head body) {r : Request}
    (hr : Request.parse (head ++ (Framing.blankLine ++ body)) = .ok r) : r.body = body := by
  obtain ⟨q, hq, rfl⟩ := Request.parse_eq_ok_iff.mp hr
  rw [h.splitHead_message] at hq ⊢
  rw [Request.fill_of_le (h.declares.declaredLength?_eq hq) (Nat.le_refl _), List.take_length]

/-- A willing client that starts with a whole message gets the wire form of the answer to its
request. -/
theorem serve_of_message {ω : Type} (handle : Request → ω → Response × ω)
    (hlimit : limit < Numeral.limit64) (h : Sends limit inlet head body) {r : Request}
    (hr : Request.parse (head ++ (Framing.blankLine ++ body)) = .ok r) {sink : Sink}
    (hsink : sink.Willing) (world : ω) :
    (serve handle limit inlet sink world).error = none ∧
      (serve handle limit inlet sink world).sink.taken
        = sink.taken ++ (handle r world).1.wire ∧
      (serve handle limit inlet sink world).world = (handle r world).2 := by
  have hdeclares := h.declares
  have hfits := Nat.lt_of_le_of_lt h.le_limit hlimit
  rw [List.length_append, List.length_append, ← Nat.add_assoc] at hfits
  rw [show head = (Framing.splitHead (head ++ (Framing.blankLine ++ body))).1 by
    rw [h.splitHead_message]] at hdeclares
  obtain ⟨hfault, hne, hparse⟩ := capture_of_message h.isPrefix h.le_limit h.isComplete_message
    hdeclares (by rw [h.splitHead_message]; exact hfits)
  rw [hr] at hparse
  have htaken := Delivery.taken_of_willing (handle r world).1 hsink
  have hdone := Delivery.run_of_willing (.ofResponse (handle r world).1) sink hsink
  unfold serve
  split
  · next hcapture =>
    rw [hcapture] at hfault
    cases hfault
  · next hcapture =>
    rw [hcapture] at hne
    exact absurd rfl hne
  · next buffer _ hcapture =>
    rw [hcapture] at hparse
    have hrespond : respond handle buffer world = handle r world := by
      rw [respond, hparse]
    rw [hrespond]
    dsimp only
    rw [hdone]
    exact ⟨rfl, htaken, rfl⟩

end

end Server

namespace Proxy

/-! ## The side of the backend -/

section

variable {s : Settings} {readUrl : Url.Reader} {url : Text} {r : Request} {endpoint : Endpoint}
  {bytes : Bytes}

/-- What is prepared for a backend is framed for the host of its URL, which holds no blanks. -/
theorem frame_of_prepare (hread : readUrl.Lawful)
    (h : prepare s readUrl url r = .ok (endpoint, bytes)) :
    ∃ u, frame s r u = .ok bytes ∧ ∀ t, u.hostText? = some t → Text.Solid t := by
  have hprepares := prepares s readUrl url r
  rw [h] at hprepares
  cases hprepares with
  | @ready u _ _ hu _ hhost hsmall =>
    exact ⟨u, frame_eq_ok_iff.mpr ⟨_, hhost, rfl, hsmall⟩, fun t => hread.solid_host hu⟩

/-- A backend reads what is prepared for it as the request that it was prepared from. -/
theorem parse_of_prepare (hread : readUrl.Lawful)
    (h : prepare s readUrl url r = .ok (endpoint, bytes)) (hr : r.Tokenised)
    (hlen : r.body.length < Numeral.limit64) :
    ∃ host, Request.parse bytes = .ok (reframed r host) := by
  obtain ⟨u, hframe, hsolid⟩ := frame_of_prepare hread h
  obtain ⟨host, hhost, rfl, -⟩ := frame_eq_message hr.target_ne_nil hframe
  exact ⟨host, parse_message_frameLines hr (solid_hostField? hsolid hhost) hlen⟩

end

/-- What a backend replies: it closes at the end, within the limit, after a head and no more body
than that declares, if it declares a length. -/
structure Replies (s : Settings) (reply : Inlet) (e : Nat) : Prop where
  headEnd : Framing.headEnd? reply.delivered = some e
  closes : reply.ending = .ended
  le_limit : reply.delivered.length ≤ s.maxResponseSize
  /-- Its body is no longer than declared. -/
  le_declared : ∀ d, Framing.declaredLength? reply.delivered = some d →
    reply.delivered.length ≤ e + 4 + d

/-- Whether the policy finds the status that it asks for in a reply. -/
def Accepts (policy : StatusPolicy) (reply : Bytes) : Prop :=
  policy = .alwaysOk ∨ (StatusLine.parse? reply).isSome = true

instance (policy : StatusPolicy) (reply : Bytes) : Decidable (Accepts policy reply) :=
  inferInstanceAs (Decidable (_ ∨ _))

/-- A reply that is accepted is relayed without its head. -/
theorem relay_of_accepts {policy : StatusPolicy} {reply : Bytes} {e : Nat}
    (hhead : Framing.headEnd? reply = some e) (h : Accepts policy reply) :
    ∃ status, relay policy reply = .ok (Response.build status .empty (reply.drop (e + 4))) := by
  have hstatus : ∃ status, replyStatus policy reply = .ok status := by
    cases policy with
    | alwaysOk => exact ⟨.ok, rfl⟩
    | propagate =>
      rcases h with h | h
      · cases h
      · obtain ⟨line, hline⟩ := Option.isSome_iff_exists.mp h
        exact ⟨.ofCode line.code, replyStatus_propagate hline⟩
  obtain ⟨status, hstatus⟩ := hstatus
  rw [relay_eq, hstatus, replyBody_eq hhead]
  exact ⟨status, rfl⟩

/-- All of such a reply is read, if 64 bits can count what it declares. -/
theorem Replies.receive_eq {s : Settings} {reply : Inlet} {e : Nat} (h : Replies s reply e)
    (hrange : Framing.InRange reply.delivered) (growth : Growth) :
    receive growth s.maxResponseSize reply = .ok reply.delivered := by
  have hlen := Framing.headEnd_add_le h.headEnd
  have hle := h.le_limit
  refine receive_eq_ok growth (by omega) h.closes hle fun n hn => ?_
  rw [hrange.declaredEnd?_eq, h.headEnd] at hn
  obtain ⟨d, hd, rfl⟩ := Option.map_eq_some_iff.mp hn
  exact h.le_declared d hd

/-- What an exchange with a backend that takes the request comes to. -/
theorem exchange_of_receive {σ : Type} {s : Settings} {net : Network σ} {url : Text} {r : Request}
    {world after : σ} {endpoint : Endpoint} {bytes read : Bytes} {reply : Inlet}
    (hprepare : prepare s net.readUrl url r = .ok (endpoint, bytes))
    (hdial : net.dial endpoint bytes world = (.accepted .sent reply, after))
    (hread : receive net.growth s.maxResponseSize reply = .ok read) :
    exchange s net url r world = (relay s.policy read, after) := by
  rw [exchange, hprepare]
  show (conclude s net.growth endpoint (net.dial endpoint bytes world).1,
    (net.dial endpoint bytes world).2) = _
  rw [hdial, conclude_of_receive hread]

/-- A pool that picks a backend has a candidate. -/
theorem candidateCount_pos {p : Pool} {now : Instant} {b : Backend} {p' : Pool}
    (h : p.next? now = some (b, p')) : 0 < p.candidateCount now := by
  obtain ⟨i, -, h⟩ := Option.bind_eq_some_iff.mp h
  obtain ⟨b', hb, -⟩ := Option.bind_eq_some_iff.mp h
  obtain ⟨hi, -⟩ := List.getElem?_eq_some_iff.mp hb
  rw [Pool.candidateCount]
  omega

/-- A request is answered by the first pick if the exchange with that succeeds. -/
theorem forward_of_exchange {σ : Type} {s : Settings} {net : Network σ} {r : Request} {pool : Pool}
    {world after : σ} {b : Backend} {next : Pool} {response : Response}
    (hpick : pool.next? (net.clock world) = some (b, next))
    (hexchange : exchange s net b.url r world = (.ok response, after)) :
    forward s net r pool world = (response, next.recordSuccess (net.clock after) b.url, after) := by
  obtain ⟨left, hleft⟩ := Nat.exists_eq_add_of_lt (candidateCount_pos hpick)
  rw [forward, hleft, Nat.zero_add, attempts, hpick]
  dsimp only
  rw [hexchange]

/-- If the only candidate fails, the client gets the page of its failure. -/
theorem forward_of_failure {σ : Type} {s : Settings} {net : Network σ} {r : Request} {pool : Pool}
    {world after : σ} {b : Backend} {next : Pool} {e : ProxyError}
    (hcount : pool.candidateCount (net.clock world) = 1)
    (hpick : pool.next? (net.clock world) = some (b, next))
    (hexchange : exchange s net b.url r world = (.error e, after)) :
    (forward s net r pool world).1 = e.response := by
  rw [forward, hcount, attempts, hpick]
  dsimp only
  rw [hexchange]
  dsimp only
  split <;> rfl

end Proxy

/-! ## All of it -/

/-- A request for a backend is answered by forwarding it. -/
theorem Handler.handle_of_proxy {σ : Type} (h : Handler σ) {r : Request} {p : Text}
    (hp : Route.ofTarget r.target = .proxy p) (w : World σ) :
    h.handle r w =
      let result := Proxy.forward h.settings h.network (r.withTarget p) w.pool w.net
      (result.1, { pool := result.2.1, net := result.2.2 }) := by
  unfold Handler.handle
  rw [hp]

/-- A request is answered with what is relayed of the reply of the backend that is picked. -/
theorem Handler.handle_of_relay {σ : Type} {h : Handler σ} {w : World σ} {r : Request} {p : Text}
    (hp : Route.ofTarget r.target = .proxy p) {b : Proxy.Backend} {pool : Proxy.Pool}
    (hpick : w.pool.next? (h.network.clock w.net) = some (b, pool)) {endpoint : Proxy.Endpoint}
    {bytes read : Bytes}
    (hprepare : Proxy.prepare h.settings h.network.readUrl b.url (r.withTarget p)
      = .ok (endpoint, bytes)) {reply : Inlet} {after : σ}
    (hdial : h.network.dial endpoint bytes w.net = (.accepted .sent reply, after))
    (hread : Proxy.receive h.network.growth h.settings.maxResponseSize reply = .ok read)
    {response : Response} (hrelay : Proxy.relay h.settings.policy read = .ok response) :
    h.handle r w = (response,
      { pool := pool.recordSuccess (h.network.clock after) b.url, net := after }) := by
  have hexchange := Proxy.exchange_of_receive hprepare hdial hread
  rw [hrelay] at hexchange
  rw [h.handle_of_proxy hp, Proxy.forward_of_exchange hpick hexchange]

/-- A client sends a request for a backend, with its length declared and maybe with more bytes
behind it, and the backend that is picked takes the framed request and replies within the limits.
However the bytes of the client, of the backend and of the response are cut on their way, and
however URLs are read and buffers grow, the backend gets the method and the body of the client and
the target of the route.  If the policy accepts the reply and 64 bits can count what it declares,
the client gets one message, and its body is what the backend sent after its head.  The message is
read as one if its own size is counted in 64 bits. -/
theorem relay_transparent {σ : Type} {h : Handler σ} (hread : h.network.readUrl.Lawful)
    {w : World σ} {limit : Nat} (hlimit : limit < Numeral.limit64) {inlet : Inlet}
    {head body : Bytes} (hsends : Server.Sends limit inlet head body) {r : Request}
    (hr : Request.parse (head ++ (Framing.blankLine ++ body)) = .ok r) {p : Text}
    (hp : Route.ofTarget r.target = .proxy p) {b : Proxy.Backend} {pool : Proxy.Pool}
    (hpick : w.pool.next? (h.network.clock w.net) = some (b, pool)) {endpoint : Proxy.Endpoint}
    {bytes : Bytes}
    (hprepare : Proxy.prepare h.settings h.network.readUrl b.url (r.withTarget p)
      = .ok (endpoint, bytes)) {reply : Inlet} {after : σ}
    (hdial : h.network.dial endpoint bytes w.net = (.accepted .sent reply, after)) {e : Nat}
    (hreply : Proxy.Replies h.settings reply e)
    (haccepts : Proxy.Accepts h.settings.policy reply.delivered)
    (hrange : Framing.InRange reply.delivered) {sink : Sink} (hsink : sink.Willing) :
    (∃ r', Request.parse bytes = .ok r' ∧ r'.method = r.method ∧ r'.target = p ∧ r'.body = body) ∧
      (Server.serve h.handle limit inlet sink w).world.net = after ∧
      (Server.serve h.handle limit inlet sink w).error = none ∧
      ∃ out, (Server.serve h.handle limit inlet sink w).sink.taken = sink.taken ++ out ∧
        (Framing.splitHead out).2 = reply.delivered.drop (e + 4) ∧
        (out.length < Numeral.limit64 → Framing.IsOneMessage out) := by
  have hbody := hsends.body_eq hr
  have htok := (Request.tokenised_of_parse hr).withTarget hp
  constructor
  · have hlen : (r.withTarget p).body.length < Numeral.limit64 := by
      rw [show (r.withTarget p).body = body from hbody]
      exact hsends.declares.lt_limit
    obtain ⟨host, hparse⟩ := Proxy.parse_of_prepare hread hprepare htok hlen
    exact ⟨_, hparse, rfl, rfl, hbody⟩
  · obtain ⟨status, hrelay⟩ := Proxy.relay_of_accepts hreply.headEnd haccepts
    have hhandle := Handler.handle_of_relay hp hpick hprepare hdial
      (hreply.receive_eq hrange h.network.growth) hrelay
    obtain ⟨herror, htaken, hworld⟩ := Server.serve_of_message h.handle hlimit hsends hr hsink w
    rw [hhandle] at htaken hworld
    have hclean := Response.clean_build status Headers.clean_empty (reply.delivered.drop (e + 4))
    refine ⟨by rw [hworld], herror, _, htaken, ?_, Response.isOneMessage_wire hclean⟩
    rw [Response.splitHead_wire hclean]
    rfl

/-- A network on which every host takes its request and sends the same reply. -/
def Proxy.Network.answeredBy (reply : Inlet) : Proxy.Network Unit where
  readUrl := Url.parse
  lookup endpoint _ := (some [.v4 ⟨127, 0, 0, 1⟩ (UInt16.ofNat endpoint.port)], ())
  connect _ _ := (.accepted, ())
  converse _ _ _ := ((.sent, reply), ())
  growth := .doubling
  clock _ := 0

/-- A gateway on that network. -/
def Handler.answeredBy (policy : StatusPolicy) (reply : Inlet) : Handler Unit where
  files := { root := [], maxFileSize := 0 }
  tree := { nodes := [] }
  settings := { policy }
  network := .answeredBy reply

/-- A pool of one backend. -/
def World.ofUrl (url : Text) : World Unit where
  pool := { backends := [{ url }] }
  net := ()

/-- A client that sends a request in two parts, and behind it the start of another. -/
def upload : Inlet :=
  [.data (Utf8.encode "PUT /api/x HTTP/1.1\r\nContent-Le".toList), .silence,
    .data (Utf8.encode "ngth: 2\r\n\r\nhi, GET / HTTP/1.1".toList)]

/-- The head of its request. -/
def uploadHead : Bytes := Utf8.encode "PUT /api/x HTTP/1.1\r\nContent-Length: 2".toList

/-- Its request. -/
def uploadRequest : Request where
  method := .put
  target := "/api/x".toList
  version := "HTTP/1.1".toList
  headers := Headers.ofList [("Content-Length".toList, "2".toList)]
  body := Utf8.encode "hi".toList
  truncated := false

theorem sends_upload : Server.Sends 8192 upload uploadHead (Utf8.encode "hi".toList) := by
  refine ⟨by decide, by decide, ⟨by decide, by decide⟩, by decide⟩

theorem parse_upload : Request.parse
    (uploadHead ++ (Framing.blankLine ++ Utf8.encode "hi".toList)) = .ok uploadRequest := by
  rfl

/-- What a backend is sent for it. -/
theorem prepare_upload (policy : StatusPolicy) :
    Proxy.prepare { policy } Url.parse "tcp://127.0.0.1:40000".toList
      (uploadRequest.withTarget "/x".toList)
      = .ok (⟨"127.0.0.1".toList, 40000⟩, Utf8.encode ("PUT /x HTTP/1.1\r\n".toList
        ++ "Host: 127.0.0.1:40000\r\nContent-Length: 2\r\n".toList
        ++ "Connection: close\r\n\r\nhi".toList)) := by
  rfl

/-- A client that takes a byte, hesitates, takes seven and then the rest. -/
def slowSink : Sink := { writes := [.takes 1, .later, .takes 7] }

theorem willing_slowSink : slowSink.Willing := by
  refine ⟨?_, rfl⟩
  intro u hu
  simp only [slowSink, List.mem_cons, List.not_mem_nil, or_false] at hu
  rcases hu with rfl | rfl | rfl
  · exact Or.inr ⟨1, by decide, rfl⟩
  · exact Or.inl rfl
  · exact Or.inr ⟨7, by decide, rfl⟩

/-- What the client takes is the wire form of the answer to the upload. -/
theorem taken_upload (h : Handler Unit) :
    (Server.serve h.handle 8192 upload slowSink
        (World.ofUrl "tcp://127.0.0.1:40000".toList)).sink.taken
      = (h.handle uploadRequest (World.ofUrl "tcp://127.0.0.1:40000".toList)).1.wire := by
  obtain ⟨-, htaken, -⟩ := Server.serve_of_message h.handle (by decide) sends_upload parse_upload
    willing_slowSink (World.ofUrl "tcp://127.0.0.1:40000".toList)
  exact htaken

/-- The upload is answered with what is relayed of the reply. -/
theorem handle_upload {policy : StatusPolicy} {reply : Inlet} {read : Bytes} {response : Response}
    (hread : Proxy.receive .doubling 65536 reply = .ok read)
    (hrelay : Proxy.relay policy read = .ok response) :
    ((Handler.answeredBy policy reply).handle uploadRequest
      (World.ofUrl "tcp://127.0.0.1:40000".toList)).1 = response := by
  rw [Handler.handle_of_relay (p := "/x".toList) rfl rfl (prepare_upload policy) rfl hread hrelay]

/-- A reply whose body starts with a blank line. -/
def blankReply : Inlet :=
  [.data (Utf8.encode "HTTP/1.1 404 No\r\nA: b\r".toList), .later,
    .data (Utf8.encode "\n\r\n\r\n\r\nc".toList)]

/-- What is made of it. -/
def blankResponse : Response := .build (.ofCode 404) .empty (Utf8.encode "\r\n\r\nc".toList)

/-- The body of a reply is relayed as it is, also if it looks like a head. -/
theorem relay_transparent_blank_lines :
    ∃ out, (Server.serve (Handler.answeredBy .propagate blankReply).handle 8192 upload slowSink
        (World.ofUrl "tcp://127.0.0.1:40000".toList)).sink.taken = out ∧
      (Framing.splitHead out).2 = Utf8.encode "\r\n\r\nc".toList ∧ Framing.IsOneMessage out := by
  have hreply :
      Proxy.Replies (Handler.answeredBy .propagate blankReply).settings blankReply 21 := by
    refine ⟨by decide, by decide, by decide, ?_⟩
    intro d hd
    cases hd
  have hrange : Framing.InRange blankReply.delivered := by decide
  obtain ⟨-, -, -, out, hout, hbody, hone⟩ := relay_transparent
    (h := Handler.answeredBy .propagate blankReply) Url.lawful_parse
    (w := World.ofUrl "tcp://127.0.0.1:40000".toList) (by decide) sends_upload parse_upload
    (p := "/x".toList) rfl rfl (prepare_upload .propagate) rfl hreply (by decide) hrange
    willing_slowSink
  have hrelay : Proxy.relay .propagate blankReply.delivered = .ok blankResponse := rfl
  have hanswer := handle_upload (hreply.receive_eq hrange .doubling) hrelay
  have htaken := taken_upload (Handler.answeredBy .propagate blankReply)
  rw [hout, hanswer] at htaken
  have hlen : out.length < Numeral.limit64 := by
    have hsorted : blankResponse.headers.sorted = blankResponse.headers.entries :=
      List.mergeSort_of_pairwise (by decide)
    rw [show out = blankResponse.wire from htaken, Response.wire, Response.wireHead, hsorted]
    decide
  exact ⟨out, hout, hbody, hone hlen⟩

/-- Whether a client gets another body than that of a reply, though both keep within the limits, as
in `relay_transparent`. -/
structure Garbles (policy : StatusPolicy) (reply : Inlet) (e : Nat) : Prop where
  replies : Proxy.Replies (Handler.answeredBy policy reply).settings reply e
  body_ne : ∃ (inlet : Inlet) (head body bytes : Bytes) (r : Request) (p : Text) (url : Text)
    (b : Proxy.Backend) (pool : Proxy.Pool) (endpoint : Proxy.Endpoint) (sink : Sink),
    Server.Sends 8192 inlet head body ∧
      Request.parse (head ++ (Framing.blankLine ++ body)) = .ok r ∧
      Route.ofTarget r.target = .proxy p ∧
      (World.ofUrl url).pool.next? 0 = some (b, pool) ∧
      Proxy.prepare { policy } Url.parse b.url (r.withTarget p) = .ok (endpoint, bytes) ∧
      (Proxy.Network.answeredBy reply).dial endpoint bytes () = (.accepted .sent reply, ()) ∧
      sink.Willing ∧ sink.taken = [] ∧
      (Framing.splitHead (Server.serve (Handler.answeredBy policy reply).handle 8192 inlet sink
        (World.ofUrl url)).sink.taken).2 ≠ reply.delivered.drop (e + 4)

/-- So it is if the upload is answered with another body. -/
theorem Garbles.of_handle {policy : StatusPolicy} {reply : Inlet} {e : Nat} {response : Response}
    (hreplies : Proxy.Replies (Handler.answeredBy policy reply).settings reply e)
    (hhandle : ((Handler.answeredBy policy reply).handle uploadRequest
      (World.ofUrl "tcp://127.0.0.1:40000".toList)).1 = response)
    (hclean : response.headers.Clean) (hne : response.body ≠ reply.delivered.drop (e + 4)) :
    Garbles policy reply e where
  replies := hreplies
  body_ne := by
    refine ⟨upload, uploadHead, Utf8.encode "hi".toList, _, uploadRequest, "/x".toList,
      "tcp://127.0.0.1:40000".toList, _, _, _, slowSink, sends_upload, parse_upload, rfl, rfl,
      prepare_upload policy, rfl, willing_slowSink, rfl, ?_⟩
    rw [taken_upload, hhandle, Response.splitHead_wire hclean]
    exact hne

/-- A reply without a status line. -/
def plainReply : Inlet := [.data (Utf8.encode "hello\r\n\r\nc".toList)]

/-- A reply that declares the largest length there is, and a body. -/
def boundlessReply : Inlet :=
  [.data (Utf8.encode ("HTTP/1.1 200 OK\r\n".toList
    ++ "Content-Length: 18446744073709551615\r\n\r\n".toList)), .data (Utf8.encode "hello".toList)]

/-- Its first part is taken to be all of it. -/
theorem receive_boundlessReply :
    Proxy.receive .doubling 65536 boundlessReply = .ok (boundlessReply.delivered.take 57) :=
  Proxy.receive_of_isSatisfied (by decide) (by decide) (by decide) _

/-- Not every reply within the limits comes through.  A policy that asks for the status of the reply
does not accept one without a status line, and nothing of that reaches the client.  And where the
end of the declared body is beyond 64 bits, the reply is taken to be complete before its body has
come. -/
theorem not_relay_transparent :
    (Garbles .propagate plainReply 5 ∧ Framing.InRange plainReply.delivered ∧
        ¬ Proxy.Accepts .propagate plainReply.delivered) ∧
      Garbles .alwaysOk boundlessReply 53 ∧ ¬ Framing.InRange boundlessReply.delivered ∧
        Proxy.Accepts .alwaysOk boundlessReply.delivered := by
  refine ⟨⟨?plain, by decide, by decide⟩, ?boundless, by decide, by decide⟩
  case plain =>
    have hreplies :
        Proxy.Replies (Handler.answeredBy .propagate plainReply).settings plainReply 5 :=
      ⟨by decide, by decide, by decide, fun d hd => by cases hd⟩
    have hexchange : Proxy.exchange { policy := .propagate } (.answeredBy plainReply)
        "tcp://127.0.0.1:40000".toList (uploadRequest.withTarget "/x".toList) ()
          = (Proxy.relay .propagate plainReply.delivered, ()) :=
      Proxy.exchange_of_receive (prepare_upload .propagate) rfl
        (hreplies.receive_eq (by decide) .doubling)
    have hrefused : Proxy.relay .propagate plainReply.delivered = .error .invalidReply := rfl
    rw [hrefused] at hexchange
    have hpage : ((Handler.answeredBy .propagate plainReply).handle uploadRequest
        (World.ofUrl "tcp://127.0.0.1:40000".toList)).1
          = Proxy.ProxyError.invalidReply.response := by
      rw [Handler.handle_of_proxy _ (p := "/x".toList) rfl]
      exact Proxy.forward_of_failure (b := { url := "tcp://127.0.0.1:40000".toList }) rfl rfl
        hexchange
    exact .of_handle hreplies hpage (Response.clean_errorPage _ _) (by decide)
  case boundless =>
    have hreplies :
        Proxy.Replies (Handler.answeredBy .alwaysOk boundlessReply).settings boundlessReply 53 := by
      refine ⟨by decide, by decide, by decide, fun d hd => ?_⟩
      have hdeclared : Framing.declaredLength? boundlessReply.delivered
          = some 18446744073709551615 := by decide
      rw [hdeclared] at hd
      cases hd
      decide
    have hrelay : Proxy.relay .alwaysOk (boundlessReply.delivered.take 57)
        = .ok (Response.build .ok .empty []) := rfl
    exact .of_handle hreplies (handle_upload receive_boundlessReply hrelay)
      (Response.clean_build .ok Headers.clean_empty []) (by decide)

end Gateway

import Gateway.Proxy.Forward

/-!
# What an exchange comes to

An exchange prepares what is to be sent, dials, and concludes from what the backend does.  Each of
these steps has a relation here with one constructor for each way in which it can go (`Prepares`,
`Reaches`, `Concludes`, `Exchanges`), and each function goes one of these ways (`prepares`,
`reaches`, `concludes`, `exchanges`).  A fact about the outcome of an exchange is then a case
analysis on the relations.

What is relayed of a reply has a status and a body, which depend on different parts of the reply
(`relay_eq`).  Where the status is relayed, a reply is accepted for its status line alone, and the
code of that is the one that is reported (`exists_line_of_relay`).
-/

namespace Gateway.Proxy

open Gateway.Http

variable {s : Settings} {readUrl : Url.Reader} {r : Request} {url : Text}

/-! ## Preparing -/

/-- The bytes of a request for a host. -/
def framed (r : Request) (host : Text) : Bytes := Utf8.encode (frameHead r host) ++ r.body

/-- A URL with a host has a value for the `Host` header. -/
theorem hostField?_eq {u : Url} {host : Text} (h : u.hostText? = some host) :
    hostField? u = some (host ++ (u.port.map fun p => ':' :: Numeral.decimal p.toNat).getD []) := by
  rw [hostField?, h]
  rfl

theorem frame_eq {u : Url} {host : Text} (h : hostField? u = some host) :
    frame s r u = if s.maxRequestSize < (framed r host).length then
      .error (.requestTooLarge (framed r host).length s.maxRequestSize)
    else .ok (framed r host) := by
  rw [frame, h]
  rfl

theorem frame_eq_ok_iff {u : Url} {out : Bytes} :
    frame s r u = .ok out ↔
      ∃ host, hostField? u = some host ∧ framed r host = out ∧ out.length ≤ s.maxRequestSize := by
  cases hhost : hostField? u with
  | none => simp [frame, hhost]
  | some host =>
    rw [frame_eq hhost]
    simp only [Option.some.injEq, exists_eq_left']
    split
    · next hlarge =>
      refine iff_of_false (fun h => nomatch h) ?_
      rintro ⟨rfl, hle⟩
      exact Nat.not_lt_of_le hle hlarge
    · next hsmall =>
      rw [Except.ok.injEq]
      exact ⟨fun h => ⟨h, h ▸ Nat.le_of_not_lt hsmall⟩, And.left⟩

/-- How a request is prepared for the backend at a URL. -/
inductive Prepares (s : Settings) (readUrl : Url.Reader) (url : Text) (r : Request) :
    Except ProxyError (Endpoint × Bytes) → Prop where
  /-- The URL cannot be read, or it has no host. -/
  | unfit : (∀ u, readUrl url = .ok u → u.hostText? = none) →
    Prepares s readUrl url r (.error (.invalidBackend url))
  | oversized {u : Url} {host : Text} : readUrl url = .ok u → hostField? u = some host →
    s.maxRequestSize < (framed r host).length →
    Prepares s readUrl url r (.error (.requestTooLarge (framed r host).length s.maxRequestSize))
  | ready {u : Url} {name host : Text} : readUrl url = .ok u → u.hostText? = some name →
    hostField? u = some host → (framed r host).length ≤ s.maxRequestSize →
    Prepares s readUrl url r (.ok (⟨name, (u.effectivePort?.getD 80).toNat⟩, framed r host))

theorem prepares (s : Settings) (readUrl : Url.Reader) (url : Text) (r : Request) :
    Prepares s readUrl url r (prepare s readUrl url r) := by
  unfold prepare
  cases hu : readUrl url with
  | error e => exact .unfit fun u h => nomatch hu ▸ h
  | ok u =>
    dsimp only
    cases hname : u.hostText? with
    | none => exact .unfit fun u' h => by cases hu.symm.trans h; exact hname
    | some name =>
      dsimp only
      have hhost := hostField?_eq hname
      rw [frame_eq hhost]
      split
      · next hlarge => exact .oversized hu hhost hlarge
      · next hsmall => exact .ready hu hname hhost (Nat.le_of_not_lt hsmall)

/-! ## Dialling -/

section

variable {σ : Type} {net : Network σ}

/-- How some addresses are tried after a last failure, and which of them is reached or why none
is. -/
inductive Reaches (net : Network σ) :
    List Net.SocketAddress → Fault → σ → Except Fault Net.SocketAddress × σ → Prop where
  | exhausted (last : Fault) (world : σ) : Reaches net [] last world (.error last, world)
  | accepted {address : Net.SocketAddress} {world after : σ} (rest : List Net.SocketAddress)
    (last : Fault) : net.connect address world = (.accepted, after) →
    Reaches net (address :: rest) last world (.ok address, after)
  | failed {address : Net.SocketAddress} {rest : List Net.SocketAddress} {last fault : Fault}
    {world after : σ} {outcome : Except Fault Net.SocketAddress × σ} :
    net.connect address world = (.failed fault, after) → Reaches net rest fault after outcome →
    Reaches net (address :: rest) last world outcome
  | timedOut {address : Net.SocketAddress} {rest : List Net.SocketAddress} {last : Fault}
    {world after : σ} {outcome : Except Fault Net.SocketAddress × σ} :
    net.connect address world = (.timedOut, after) →
    Reaches net rest (timedOut "connect") after outcome →
    Reaches net (address :: rest) last world outcome

theorem reaches (net : Network σ) : ∀ (addresses : List Net.SocketAddress) (last : Fault)
    (world : σ), Reaches net addresses last world (net.reach addresses last world)
  | [], last, world => .exhausted last world
  | address :: rest, last, world => by
    cases hconnect : net.connect address world with
    | mk connecting after =>
      rw [Network.reach, hconnect]
      cases connecting with
      | accepted => exact .accepted rest last hconnect
      | failed fault => exact .failed hconnect (reaches net rest fault after)
      | timedOut => exact .timedOut hconnect (reaches net rest (timedOut "connect") after)

theorem Reaches.mem {addresses : List Net.SocketAddress} {last : Fault} {world : σ}
    {outcome : Except Fault Net.SocketAddress × σ} (h : Reaches net addresses last world outcome)
    {address : Net.SocketAddress} (hreached : outcome.1 = .ok address) : address ∈ addresses := by
  induction h with
  | exhausted => cases hreached
  | accepted rest last _ =>
    cases hreached
    exact List.mem_cons_self
  | failed _ _ ih | timedOut _ _ ih => exact List.mem_cons_of_mem _ (ih hreached)

/-- A backend that accepts does so at an address of version 4 that was found for it. -/
theorem exists_address_of_dial {endpoint : Endpoint} {bytes : Bytes} {world after : σ}
    {sending : Sending} {reply : Inlet}
    (h : net.dial endpoint bytes world = (.accepted sending reply, after)) :
    ∃ found address mid, (net.lookup endpoint world).1 = some found ∧ address ∈ found ∧
      address.isV4 = true ∧ net.converse address bytes mid = ((sending, reply), after) := by
  unfold Network.dial at h
  cases hlookup : net.lookup endpoint world with
  | mk found looked =>
    rw [hlookup] at h
    dsimp only at h
    split at h
    · cases h
    · next first others hfilter =>
      have hreaches := reaches net (first :: others) (timedOut "connect") looked
      cases hreach : net.reach (first :: others) (timedOut "connect") looked with
      | mk outcome mid =>
        rw [hreach] at h hreaches
        cases outcome with
        | error fault => cases h
        | ok address =>
          have hmem := hreaches.mem rfl
          rw [← hfilter, List.mem_filter] at hmem
          cases found with
          | none => cases hmem.1
          | some found =>
            cases h
            exact ⟨found, address, mid, rfl, hmem.1, hmem.2, rfl⟩

end

/-! ## Relaying -/

/-- The status that is reported for a reply. -/
def replyStatus (policy : StatusPolicy) (reply : Bytes) : Except ProxyError Status :=
  match policy with
  | .alwaysOk => .ok .ok
  | .propagate =>
    match StatusLine.parse? reply with
    | some line => .ok (.ofCode line.code)
    | none => .error .invalidReply

/-- What is relayed of a reply. -/
def replyBody (reply : Bytes) : Bytes :=
  match Framing.headEnd? reply with
  | some e => reply.drop (e + 4)
  | none => reply

theorem relay_eq (policy : StatusPolicy) (reply : Bytes) :
    relay policy reply =
      (replyStatus policy reply).map fun st => Response.build st .empty (replyBody reply) := by
  cases policy with
  | alwaysOk => rfl
  | propagate =>
    simp only [relay, replyStatus]
    cases StatusLine.parse? reply <;> rfl

theorem replyBody_eq {reply : Bytes} {e : Nat} (h : Framing.headEnd? reply = some e) :
    replyBody reply = reply.drop (e + 4) := by
  rw [replyBody, h]

theorem relay_eq_ok_iff {policy : StatusPolicy} {reply : Bytes} {response : Response} :
    relay policy reply = .ok response ↔
      ∃ status, replyStatus policy reply = .ok status ∧
        Response.build status .empty (replyBody reply) = response := by
  rw [relay_eq]
  cases replyStatus policy reply with
  | error e => simp [Except.map]
  | ok status => simp [Except.map]

theorem body_of_relay {policy : StatusPolicy} {reply : Bytes} {response : Response}
    (h : relay policy reply = .ok response) : response.body = replyBody reply := by
  obtain ⟨status, -, rfl⟩ := relay_eq_ok_iff.mp h
  rfl

theorem eq_of_relay_eq_error {policy : StatusPolicy} {reply : Bytes} {e : ProxyError}
    (h : relay policy reply = .error e) : e = .invalidReply := by
  cases policy with
  | alwaysOk => cases h
  | propagate =>
    rw [relay_eq, replyStatus] at h
    cases hline : StatusLine.parse? reply with
    | none =>
      rw [hline] at h
      cases h
      rfl
    | some line =>
      rw [hline] at h
      cases h

theorem replyStatus_propagate {reply : Bytes} {line : StatusLine}
    (h : StatusLine.parse? reply = some line) :
    replyStatus .propagate reply = .ok (.ofCode line.code) := by
  rw [replyStatus, h]

theorem relay_propagate {reply : Bytes} {line : StatusLine} {e : Nat}
    (hline : StatusLine.parse? reply = some line) (hhead : Framing.headEnd? reply = some e) :
    relay .propagate reply
      = .ok (Response.build (.ofCode line.code) .empty (reply.drop (e + 4))) := by
  rw [relay_eq, replyStatus_propagate hline, replyBody_eq hhead]
  rfl

/-- A reply that is accepted has a status line, and the code of that is relayed. -/
theorem exists_line_of_relay {reply : Bytes} {response : Response}
    (h : relay .propagate reply = .ok response) :
    ∃ line, StatusLine.parse? reply = some line ∧ response.status.code = line.code := by
  obtain ⟨status, hstatus, rfl⟩ := relay_eq_ok_iff.mp h
  cases hline : StatusLine.parse? reply with
  | none =>
    rw [replyStatus, hline] at hstatus
    cases hstatus
  | some line =>
    rw [replyStatus_propagate hline] at hstatus
    cases hstatus
    exact ⟨line, rfl, Status.code_ofCode line.code⟩

/-! ## Concluding -/

variable {growth : Growth}

theorem conclude_of_receive {endpoint : Endpoint} {i : Inlet} {b : Bytes}
    (h : receive growth s.maxResponseSize i = .ok b) :
    conclude s growth endpoint (.accepted .sent i) = relay s.policy b := by
  simp only [conclude, h]

/-- What is concluded from what a backend does. -/
inductive Concludes (s : Settings) (growth : Growth) (endpoint : Endpoint) :
    Dial → Except ProxyError Response → Prop where
  | unresolved : Concludes s growth endpoint .unresolved (.error (.unresolved endpoint.text))
  | refused (fault : Fault) :
    Concludes s growth endpoint (.refused fault) (.error (.connect endpoint.text fault))
  | unsent (fault : Fault) (reply : Inlet) :
    Concludes s growth endpoint (.accepted (.failed fault) reply) (.error (.send fault))
  | delayed (reply : Inlet) :
    Concludes s growth endpoint (.accepted .timedOut reply) (.error (.send (timedOut "send")))
  | unread {reply : Inlet} {fault : Fault} : receive growth s.maxResponseSize reply = .error fault →
    Concludes s growth endpoint (.accepted .sent reply) (.error (.receive fault))
  | relayed {reply : Inlet} {bytes : Bytes} {outcome : Except ProxyError Response} :
    receive growth s.maxResponseSize reply = .ok bytes → relay s.policy bytes = outcome →
    Concludes s growth endpoint (.accepted .sent reply) outcome

theorem concludes (s : Settings) (growth : Growth) (endpoint : Endpoint) (d : Dial) :
    Concludes s growth endpoint d (conclude s growth endpoint d) := by
  cases d with
  | unresolved => exact .unresolved
  | refused fault => exact .refused fault
  | accepted sending reply =>
    cases sending with
    | failed fault => exact .unsent fault reply
    | timedOut => exact .delayed reply
    | sent =>
      cases hr : receive growth s.maxResponseSize reply with
      | error fault =>
        rw [conclude, hr]
        exact .unread hr
      | ok bytes =>
        rw [conclude_of_receive hr]
        exact .relayed hr rfl

/-- There is a response only for a reply that was read. -/
theorem Concludes.exists_receive {endpoint : Endpoint} {d : Dial} {response : Response}
    (h : Concludes s growth endpoint d (.ok response)) :
    ∃ reply bytes, d = .accepted .sent reply ∧
      receive growth s.maxResponseSize reply = .ok bytes ∧ relay s.policy bytes = .ok response := by
  cases h with
  | @relayed reply bytes _ hr hrelay => exact ⟨reply, bytes, rfl, hr, hrelay⟩

/-- A failure after the dial is a fault of the backend, but not of its URL. -/
theorem Concludes.isBackendFault {endpoint : Endpoint} {d : Dial} {e : ProxyError}
    (h : Concludes s growth endpoint d (.error e)) :
    e.isBackendFault = true ∧ ∀ bad, e ≠ .invalidBackend bad := by
  cases h with
  | relayed _ hrelay =>
    rw [eq_of_relay_eq_error hrelay]
    exact ⟨rfl, fun bad h => nomatch h⟩
  | _ => exact ⟨rfl, fun bad h => nomatch h⟩

/-! ## Exchanges -/

variable {σ : Type}

/-- What an exchange comes to, and the network after it. -/
inductive Exchanges (s : Settings) (net : Network σ) (url : Text) (r : Request) (world : σ) :
    Except ProxyError Response × σ → Prop where
  | unprepared {e : ProxyError} : prepare s net.readUrl url r = .error e →
    Exchanges s net url r world (.error e, world)
  | dialled {endpoint : Endpoint} {bytes : Bytes} {outcome : Except ProxyError Response} :
    prepare s net.readUrl url r = .ok (endpoint, bytes) →
    Concludes s net.growth endpoint (net.dial endpoint bytes world).1 outcome →
    Exchanges s net url r world (outcome, (net.dial endpoint bytes world).2)

theorem exchanges (s : Settings) (net : Network σ) (url : Text) (r : Request) (world : σ) :
    Exchanges s net url r world (exchange s net url r world) := by
  unfold exchange
  cases hp : prepare s net.readUrl url r with
  | error e => exact .unprepared hp
  | ok prepared => exact .dialled hp (concludes s net.growth prepared.1 _)

end Gateway.Proxy

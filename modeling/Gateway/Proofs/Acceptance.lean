import Gateway.Config.Load
import Gateway.Proofs.Charge
import Gateway.Proofs.Overtaking
import Gateway.Proofs.Utf8

/-!
# Accepted configurations

`Acceptable` says what a configuration has to be, and `validate` accepts just these
(`validate_eq_ok_iff`).  One that is refused is refused for the first rule that it breaks
(`breaks_of_validate`).

A configuration is checked as it stands in its file, and again with the listen address that replaces
the one of the file.  No rule is about the address.  So the second check passes whenever the first
one does, and nothing but the address is replaced (`load_listen`).

An exchange reads the URL of its backend anew and asks for the host twice, once to dial and once to
frame the request.  A URL that the check has let through passes all of this, as long as URLs are
read in the same way (`exchange_ne_invalidBackend`).  The URLs of a pool never change, so every
exchange is with a URL of the configuration, whether requests come one after the other
(`Trail.exists_exchange`) or side by side (`Crowd.Placed.run`).

None of this depends on how URLs and files are read, so all of it holds for any `Readers`.
-/

namespace Gateway

open Gateway.Http

namespace Config

/-! ## The rules -/

/-- Whether a URL can be that of a backend. -/
def Fits (readUrl : Url.Reader) (url : Text) : Prop :=
  ∃ u, readUrl url = .ok u ∧ u.scheme = "http".toList ∧ ∃ host, u.hostText? = some host

/-- What a configuration has to be. -/
structure Acceptable (c : Config) (readUrl : Url.Reader) : Prop where
  maxConnections : c.server.maxConnections ≠ 0
  maxRequestSize : c.server.maxRequestSize ≠ 0
  maxFileSize : c.staticFiles.maxFileSize ≠ 0
  maxResponseSize : c.proxy.maxResponseSize ≠ 0
  backends : ∀ b ∈ c.proxy.backends, Fits readUrl b.url

/-- Why a configuration can be refused: the first of its limits that is 0, or the first backend that
does not fit, if no limit is 0. -/
inductive Breaks (c : Config) (readUrl : Url.Reader) : Invalid → Prop where
  | zeroLimit {limit : Limit} {before after : List (Limit × Nat)} :
    c.limits = before ++ (limit, 0) :: after → (∀ l ∈ before, l.2 ≠ 0) →
    Breaks c readUrl (.zeroLimit limit)
  | backend {b : Backend} {before after : List Backend} {fault : BackendFault} :
    (∀ l ∈ c.limits, l.2 ≠ 0) → c.proxy.backends = before ++ b :: after →
    (∀ b' ∈ before, Fits readUrl b'.url) → backendFault? readUrl b.url = some fault →
    Breaks c readUrl (.backend b.url fault)

variable {readUrl : Url.Reader} {readers : Readers}

theorem backendFault?_eq_none_iff {url : Text} :
    backendFault? readUrl url = none ↔ Fits readUrl url := by
  unfold backendFault? Fits
  cases hu : readUrl url with
  | error e => simp
  | ok u =>
    generalize "http".toList = http
    by_cases hscheme : u.scheme = http
    · cases hhost : u.hostText? <;> simp [hscheme, hhost]
    · simp [hscheme]

/-- The backends do their part exactly if none has a fault. -/
theorem findSome?_backendFault_eq_none_iff {bs : List Backend} :
    (bs.findSome? fun b => (backendFault? readUrl b.url).map (Invalid.backend b.url)) = none ↔
      ∀ b ∈ bs, Fits readUrl b.url := by
  simp only [List.findSome?_eq_none_iff, Option.map_eq_none_iff, backendFault?_eq_none_iff]

theorem find?_limits_eq_none_iff {c : Config} :
    c.limits.find? (·.2 == 0) = none ↔ ∀ l ∈ c.limits, l.2 ≠ 0 := by
  simp [List.find?_eq_none]

theorem invalid?_eq_none_iff {c : Config} :
    c.invalid? readUrl = none ↔ c.Acceptable readUrl := by
  rw [invalid?, Option.or_eq_none_iff, Option.map_eq_none_iff, find?_limits_eq_none_iff,
    findSome?_backendFault_eq_none_iff]
  constructor
  · rintro ⟨hlimits, hbackends⟩
    simp only [limits, List.forall_mem_cons] at hlimits
    obtain ⟨hconnections, hrequest, hfile, hresponse, -⟩ := hlimits
    exact ⟨hconnections, hrequest, hfile, hresponse, hbackends⟩
  · intro h
    simp only [limits, List.forall_mem_cons]
    exact ⟨⟨h.maxConnections, h.maxRequestSize, h.maxFileSize, h.maxResponseSize,
      List.forall_mem_nil _⟩, h.backends⟩

theorem validate_eq_ok_iff {c : Config} :
    c.validate readUrl = .ok () ↔ c.Acceptable readUrl := by
  rw [← invalid?_eq_none_iff, validate]
  cases c.invalid? readUrl <;> simp

/-- The reason that is reported is the first rule that is broken. -/
theorem breaks_of_validate {c : Config} {reason : Invalid}
    (h : c.validate readUrl = .error reason) : c.Breaks readUrl reason := by
  have hreason : c.invalid? readUrl = some reason := by
    rw [validate] at h
    cases hinvalid : c.invalid? readUrl with
    | none =>
      rw [hinvalid] at h
      cases h
    | some reason' =>
      rw [hinvalid] at h
      cases h
      rfl
  rcases Option.or_eq_some_iff.mp hreason with hlimit | ⟨hlimits, hbackend⟩
  · obtain ⟨⟨limit, value⟩, hfind, rfl⟩ := Option.map_eq_some_iff.mp hlimit
    obtain ⟨hzero, before, after, hsplit, hbefore⟩ := List.find?_eq_some_iff_append.mp hfind
    cases eq_of_beq hzero
    exact .zeroLimit hsplit fun l hl => by simpa using hbefore l hl
  · rw [Option.map_eq_none_iff, find?_limits_eq_none_iff] at hlimits
    obtain ⟨before, b, after, hsplit, hmap, hbefore⟩ := List.findSome?_eq_some_iff.mp hbackend
    obtain ⟨fault, hfault, rfl⟩ := Option.map_eq_some_iff.mp hmap
    refine .backend hlimits hsplit (fun b' hb' => ?_) hfault
    exact backendFault?_eq_none_iff.mp (Option.map_eq_none_iff.mp (hbefore b' hb'))

/-! ## Loading -/

theorem checked_eq_ok_iff {c c' : Config} :
    c.checked readUrl = .ok c' ↔ c.validate readUrl = .ok () ∧ c' = c := by
  rw [checked]
  cases c.validate readUrl with
  | error reason => simp
  | ok _ => simp [eq_comm]

theorem checked_of_validate {c : Config} (h : c.validate readUrl = .ok ()) :
    c.checked readUrl = .ok c :=
  checked_eq_ok_iff.mpr ⟨h, rfl⟩

theorem validate_of_parse {t : Text} {c : Config} (h : parse t readers = .ok c) :
    c.validate readers.url = .ok () := by
  rw [parse] at h
  split at h
  · cases h
  · obtain ⟨hvalid, rfl⟩ := checked_eq_ok_iff.mp h
    exact hvalid

theorem validate_of_ofFile {path : Bytes} {content : Except Fault Bytes} {c : Config}
    (h : ofFile path content readers = .ok c) : c.validate readers.url = .ok () := by
  unfold ofFile at h
  split at h
  · cases h
  · split at h
    · cases h
    · exact validate_of_parse h

/-- No rule is about the listen address. -/
theorem validate_withListenAddr (c : Config) (address : Option Text) :
    (c.withListenAddr address).validate readUrl = c.validate readUrl := rfl

/-- The configuration as it is written in a file, or the default one if there is none. -/
def written (readers : Readers) (file : Option (Bytes × Except Fault Bytes)) :
    Except LoadError Config :=
  match file with
  | some (path, content) => ofFile path content readers
  | none => .ok {}

theorem load_eq (readers : Readers) (s : Sources) :
    load s readers = (written readers s.file).bind fun c =>
      checked (c.withListenAddr (s.listen.bind Utf8.decode?)) readers.url := by
  obtain ⟨file, listen⟩ := s
  cases file <;> rfl

theorem validate_of_load {s : Sources} {c : Config} (h : load s readers = .ok c) :
    c.validate readers.url = .ok () := by
  rw [load_eq] at h
  cases hwritten : written readers s.file with
  | error e =>
    rw [hwritten] at h
    cases h
  | ok c' =>
    rw [hwritten] at h
    obtain ⟨hvalid, rfl⟩ := checked_eq_ok_iff.mp h
    exact hvalid

/-- A listen address from outside the file changes nothing but the listen address, and cannot make
loading fail. -/
theorem load_listen (readers : Readers) (file : Option (Bytes × Except Fault Bytes))
    (listen : Option Bytes) :
    load { file, listen } readers
      = (load { file } readers).map (withListenAddr · (listen.bind Utf8.decode?)) := by
  rw [load_eq, load_eq]
  cases written readers file with
  | error e => rfl
  | ok c =>
    show checked (c.withListenAddr _) readers.url
      = (checked (c.withListenAddr none) readers.url).map _
    cases hvalid : c.validate readers.url with
    | ok _ =>
      rw [checked_of_validate ((validate_withListenAddr c _).trans hvalid),
        checked_of_validate ((validate_withListenAddr c _).trans hvalid)]
      rfl
    | error reason =>
      simp only [checked, validate_withListenAddr, hvalid]
      rfl

end Config

namespace Proxy

/-! ## Exchanges with a URL that fits -/

variable {σ : Type} {s : Settings} {net : Network σ} {requests : List Request}

/-- A request can be framed for a URL with a host, unless it is too large. -/
theorem frame_ne_invalidBackend {u : Url} {host : Text} (hhost : u.hostText? = some host)
    (s : Settings) (r : Request) (bad : Text) : frame s r u ≠ .error (.invalidBackend bad) := by
  rw [frame_eq (hostField?_eq hhost)]
  split <;> exact fun h => nomatch h

theorem prepare_ne_invalidBackend {readUrl : Url.Reader} {url : Text}
    (hurl : Config.Fits readUrl url) (s : Settings) (r : Request) (bad : Text) :
    prepare s readUrl url r ≠ .error (.invalidBackend bad) := by
  obtain ⟨u, hu, -, host, hhost⟩ := hurl
  intro h
  have hprepares := prepares s readUrl url r
  rw [h] at hprepares
  cases hprepares with
  | unfit hnone =>
    rw [hnone u hu] at hhost
    cases hhost

theorem exchange_ne_invalidBackend {url : Text} (hurl : Config.Fits net.readUrl url) (s : Settings)
    (r : Request) (world : σ) (bad : Text) :
    (exchange s net url r world).1 ≠ .error (.invalidBackend bad) := by
  intro h
  have hexchanges := exchanges s net url r world
  generalize exchange s net url r world = outcome at hexchanges h
  cases hexchanges with
  | unprepared hprepare =>
    cases h
    exact prepare_ne_invalidBackend hurl s r bad hprepare
  | dialled _ hconcludes =>
    cases h
    exact hconcludes.isBackendFault.2 bad rfl

/-! ## Which URLs exchanges are with -/

/-- Each try is an exchange with a URL of the pool that the tries start from. -/
theorem Trail.exists_exchange {p p' : Pool} {log : List (Try σ)}
    (h : Trail s net requests p log p') {t : Try σ} (ht : t ∈ log) :
    ∃ url ∈ p.backends.map Backend.url, ∃ r ∈ requests,
      exchange s net url r t.before = (t.outcome, t.after) := by
  induction h with
  | nil p => cases ht
  | cons hpick hb hr hx _ ih =>
    cases ht with
    | head => exact ⟨_, List.mem_map_of_mem (List.mem_of_getElem? hb), _, hr, hx⟩
    | tail _ ht =>
      obtain ⟨url, hurl, hexchange⟩ := ih ht
      rw [Pool.map_url_charge] at hurl
      exact ⟨url, hurl, hexchange⟩

namespace Crowd

/-- Whether each call that waits for a backend waits for one of the pool. -/
def Placed (w : Crowd) : Prop :=
  ∀ left url, .exchanging left url ∈ w.calls → url ∈ w.pool.backends.map Backend.url

theorem Placed.step {w : Crowd} (h : w.Placed) (t : Turn) : (w.step t).Placed := by
  intro left url hmem
  rcases step_cases t w with ⟨-, hsame⟩ | ⟨c, d, c', -, -, hstep, hafter, hothers⟩
  · rw [hsame] at hmem ⊢
    exact h left url hmem
  · rw [hstep.map_url]
    obtain ⟨i, hi⟩ := List.mem_iff_getElem?.mp hmem
    by_cases hcaller : t.caller = i
    · subst hcaller
      rw [hafter] at hi
      cases hi
      -- only a pick makes a call wait
      generalize (w.step t).pool = p' at hstep
      cases hstep with
      | pick _ hb => exact List.mem_map_of_mem (List.mem_of_getElem? hb)
    · rw [hothers i hcaller] at hi
      exact h left url (List.mem_of_getElem? hi)

theorem Placed.run {w : Crowd} (h : w.Placed) (turns : List Turn) : (run turns w).Placed := by
  induction turns generalizing w with
  | nil => exact h
  | cons t turns ih => exact ih (h.step t)

theorem placed_fresh (pool : Pool) (n : Nat) : Placed ⟨pool, List.replicate n .fresh⟩ := by
  intro left url hmem
  cases List.eq_of_mem_replicate hmem

end Crowd

end Proxy

namespace Config

/-! ## What acceptance rules out -/

/-- Whether no request can find a backend of a configuration unfit, as long as URLs are read in the
same way. -/
structure NeverUnfit (c : Config) (readUrl : Url.Reader) : Prop where
  prepare : ∀ b ∈ c.proxy.backends, ∀ (r : Request) (bad : Text),
    Proxy.prepare (Handler.settingsOf c) readUrl b.url r ≠ .error (.invalidBackend bad)
  frame : ∀ b ∈ c.proxy.backends, ∀ u, readUrl b.url = .ok u → ∀ (r : Request) (bad : Text),
    Proxy.frame (Handler.settingsOf c) r u ≠ .error (.invalidBackend bad)
  /-- No try fails so in a run of requests one after the other. -/
  tried : ∀ (σ : Type) (net : Proxy.Network σ), net.readUrl = readUrl →
    ∀ calls : List (Request × σ),
      ∀ t ∈ (Proxy.loggedRun (Handler.settingsOf c) net calls (Handler.poolOf c)).1, ∀ bad,
        t.outcome ≠ .error (.invalidBackend bad)
  /-- Nor does an exchange that a call waits for, among calls side by side. -/
  underWay : ∀ (n : Nat) (turns : List Proxy.Turn) (left : Nat) (url : Text),
    .exchanging left url ∈
      (Proxy.Crowd.run turns ⟨Handler.poolOf c, List.replicate n .fresh⟩).calls →
    ∀ (σ : Type) (net : Proxy.Network σ), net.readUrl = readUrl →
      ∀ (r : Request) (world : σ) (bad : Text),
        (Proxy.exchange (Handler.settingsOf c) net url r world).1 ≠ .error (.invalidBackend bad)

theorem map_url_poolOf (c : Config) :
    (Handler.poolOf c).backends.map Proxy.Backend.url = c.proxy.backends.map Backend.url := by
  simp [Handler.poolOf]

theorem Acceptable.fits {c : Config} (h : c.Acceptable readUrl) {url : Text}
    (hurl : url ∈ (Handler.poolOf c).backends.map Proxy.Backend.url) : Fits readUrl url := by
  rw [map_url_poolOf] at hurl
  obtain ⟨b, hb, rfl⟩ := List.mem_map.mp hurl
  exact h.backends b hb

theorem Acceptable.neverUnfit {c : Config} (h : c.Acceptable readUrl) : c.NeverUnfit readUrl where
  prepare := fun b hb r bad => Proxy.prepare_ne_invalidBackend (h.backends b hb) _ r bad
  frame := by
    intro b hb u hu r bad
    obtain ⟨u', hu', -, host, hhost⟩ := h.backends b hb
    rw [hu] at hu'
    cases hu'
    exact Proxy.frame_ne_invalidBackend hhost _ r bad
  tried := by
    rintro σ net rfl calls t ht bad
    have htrail : Proxy.Trail (Handler.settingsOf c) net (calls.map Prod.fst)
        (Handler.poolOf c) _ _ :=
      Proxy.trail_loggedRun (fun call hcall => List.mem_map_of_mem hcall) _
    obtain ⟨url, hurl, r, -, hx⟩ := htrail.exists_exchange ht
    have hne := Proxy.exchange_ne_invalidBackend (h.fits hurl) (Handler.settingsOf c) r
      t.before bad
    rwa [hx] at hne
  underWay := by
    rintro n turns left url hmem σ net rfl r world bad
    have hurl := (Proxy.Crowd.placed_fresh (Handler.poolOf c) n).run turns left url hmem
    rw [Proxy.Crowd.map_url_run] at hurl
    exact Proxy.exchange_ne_invalidBackend (h.fits hurl) _ r world bad

/-- However URLs and files are read, validation accepts a configuration exactly if it keeps the
rules, and every configuration that is parsed, read from a file or loaded has passed it.  A listen
address from outside the file makes no difference to whether loading fails, nor to anything but the
listen address.  With an accepted configuration no request ever finds a backend unfit. -/
theorem validate_spec (readers : Readers) :
    (∀ c : Config, c.validate readers.url = .ok () ↔ c.Acceptable readers.url) ∧
    (∀ t c, parse t readers = .ok c → c.validate readers.url = .ok ()) ∧
    (∀ path content c, ofFile path content readers = .ok c → c.validate readers.url = .ok ()) ∧
    (∀ s c, load s readers = .ok c → c.validate readers.url = .ok ()) ∧
    (∀ file bytes address, Utf8.decode? bytes = some address →
      load { file, listen := some bytes } readers =
        (load { file } readers).map fun c => { c with server.listenAddr := address }) ∧
    ∀ c : Config, c.validate readers.url = .ok () → c.NeverUnfit readers.url := by
  refine ⟨fun c => validate_eq_ok_iff, fun t c => validate_of_parse,
    fun path content c => validate_of_ofFile, fun s c => validate_of_load,
    fun file bytes address haddress => ?_, fun c h => (validate_eq_ok_iff.mp h).neverUnfit⟩
  rw [load_listen, Option.bind_some, haddress]
  rfl

/-- A file that names one backend. -/
def loopbackFile : Text := "proxy:\n  backends:\n    - url: \"http://[::1]:40000\"\n".toList

/-- What it says. -/
def loopback : Config := { proxy.backends := [{ url := "http://[::1]:40000".toList }] }

theorem parse_loopbackFile : parse loopbackFile = .ok loopback := by
  have h : (parse loopbackFile).toOption = some loopback := by decide +kernel
  cases hparse : parse loopbackFile with
  | error e =>
    rw [hparse] at h
    cases h
  | ok c =>
    rw [hparse] at h
    cases h
    rfl

/-- The same with another listen address. -/
def loopbackOn (address : Text) : Config := { loopback with server.listenAddr := address }

/-- The file and a listen address from outside it. -/
def loopbackSources (listen : Option Bytes) : Sources :=
  { file := some ([], .ok (Utf8.encode loopbackFile)), listen }

/-- The file is accepted, and so is what another listen address makes of it. -/
theorem validate_spec_loopback :
    loopback.Acceptable Url.parse ∧ loopback.NeverUnfit Url.parse ∧ loopback.proxy.backends ≠ [] ∧
      (loopbackOn "[::]:80".toList).validate = .ok () ∧
      load (loopbackSources (some (Utf8.encode "[::]:80".toList)))
        = .ok (loopbackOn "[::]:80".toList) := by
  obtain ⟨hiff, hparse, hfile, hload, hlisten, hnever⟩ := validate_spec .standard
  have hread : ofFile [] (.ok (Utf8.encode loopbackFile)) = .ok loopback := by
    rw [ofFile, Utf8.decode?_encode]
    exact parse_loopbackFile
  have hvalid : loopback.validate = .ok () := hparse _ _ parse_loopbackFile
  have hplain : load (loopbackSources none) = .ok loopback := by
    rw [load_eq, loopbackSources, written, hread]
    exact checked_of_validate (hfile _ _ _ hread)
  have hreplaced : load (loopbackSources (some (Utf8.encode "[::]:80".toList)))
      = .ok (loopbackOn "[::]:80".toList) := by
    refine (hlisten _ _ _ (Utf8.decode?_encode _)).trans ?_
    show (load (loopbackSources none)).map _ = _
    rw [hplain]
    rfl
  exact ⟨(hiff loopback).mp hvalid, hnever loopback hvalid, List.cons_ne_nil _ _,
    hload _ _ hreplaced, hreplaced⟩

end Config

end Gateway

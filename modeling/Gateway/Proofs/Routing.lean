import Gateway.Route
import Gateway.Proofs.Text

/-!
# The grammar of targets

A target is routed by its first segment, which ends where a slash or a question mark follows or
nothing does (`EndsSegment`).  So the files and the backends have a grammar each, `/static` or
`/api` with such a remainder.  A target with either form has the route of that form
(`ofTarget_static`, `ofTarget_api`), and one with neither is not found (`ofTarget_cases`).

A backend is asked for the remainder, with a slash in front if it has none.  That hides one
difference only: whether there was a slash right behind `/api`, in front of a query or at the end
(`SlashApart`).  The remainder is forwarded as it is otherwise, so forwarding brings in no character
that the client did not send.  `ofTarget_grammar` says all this of every target.
-/

namespace Gateway.Route

/-! ## The first segment -/

/-- What may follow the first segment of a target. -/
inductive EndsSegment : Text → Prop where
  | nothing : EndsSegment []
  | path (t : Text) : EndsSegment ('/' :: t)
  | query (t : Text) : EndsSegment ('?' :: t)

theorem endsSegment_dropWhile (t : Text) : EndsSegment (t.dropWhile inSegment) := by
  induction t with
  | nil => exact .nothing
  | cons c t ih =>
    by_cases hc : inSegment c = true
    · rw [List.dropWhile_cons_of_pos hc]
      exact ih
    · rw [List.dropWhile_cons_of_neg hc]
      by_cases hslash : c = '/'
      · exact hslash ▸ .path t
      · have hmark : c = '?' := by simpa [inSegment, hslash] using hc
        exact hmark ▸ .query t

/-! ## The routes -/

theorem ofTarget_static {rest : Text} (h : EndsSegment rest) :
    ofTarget ("/static".toList ++ rest) = .file := by
  cases h <;> rfl

theorem ofTarget_api {rest : Text} (h : EndsSegment rest) :
    ofTarget ("/api".toList ++ rest) = .proxy (forwarded rest) := by
  cases h <;> rfl

/-- Each target has one of the two forms, or nobody answers it. -/
theorem ofTarget_cases (target : Text) :
    (∃ rest, EndsSegment rest ∧ target = "/static".toList ++ rest) ∨
      (∃ rest, EndsSegment rest ∧ target = "/api".toList ++ rest) ∨ ofTarget target = .notFound := by
  unfold ofTarget
  split
  · next path =>
    have hcut : path.takeWhile inSegment ++ path.dropWhile inSegment = path :=
      List.takeWhile_append_dropWhile
    have hrest := endsSegment_dropWhile path
    by_cases hstatic : path.takeWhile inSegment = "static".toList
    · rw [hstatic] at hcut
      exact Or.inl ⟨_, hrest, congrArg ('/' :: ·) hcut.symm⟩
    · by_cases hapi : path.takeWhile inSegment = "api".toList
      · rw [hapi] at hcut
        exact Or.inr (Or.inl ⟨_, hrest, congrArg ('/' :: ·) hcut.symm⟩)
      · exact Or.inr (Or.inr (by simp only [hstatic, hapi, if_false]))
  · exact Or.inr (Or.inr rfl)

theorem ofTarget_eq_file_iff {target : Text} :
    ofTarget target = .file ↔ ∃ rest, EndsSegment rest ∧ target = "/static".toList ++ rest := by
  constructor
  · intro h
    rcases ofTarget_cases target with hstatic | ⟨rest, hrest, rfl⟩ | hnone
    · exact hstatic
    · rw [ofTarget_api hrest] at h
      cases h
    · rw [hnone] at h
      cases h
  · rintro ⟨rest, hrest, rfl⟩
    exact ofTarget_static hrest

theorem ofTarget_eq_proxy_iff {target f : Text} :
    ofTarget target = .proxy f ↔
      ∃ rest, EndsSegment rest ∧ target = "/api".toList ++ rest ∧ forwarded rest = f := by
  constructor
  · intro h
    rcases ofTarget_cases target with ⟨rest, hrest, rfl⟩ | ⟨rest, hrest, rfl⟩ | hnone
    · rw [ofTarget_static hrest] at h
      cases h
    · rw [ofTarget_api hrest] at h
      exact ⟨rest, hrest, rfl, Route.proxy.inj h⟩
    · rw [hnone] at h
      cases h
  · rintro ⟨rest, hrest, rfl, rfl⟩
    exact ofTarget_api hrest

theorem ofTarget_eq_notFound_iff {target : Text} :
    ofTarget target = .notFound ↔
      ∀ rest, EndsSegment rest → target ≠ "/static".toList ++ rest ∧ target ≠ "/api".toList ++ rest := by
  constructor
  · intro h rest hrest
    constructor
    · rintro rfl
      rw [ofTarget_static hrest] at h
      cases h
    · rintro rfl
      rw [ofTarget_api hrest] at h
      cases h
  · intro h
    rcases ofTarget_cases target with ⟨rest, hrest, rfl⟩ | ⟨rest, hrest, rfl⟩ | hnone
    · exact absurd rfl (h rest hrest).1
    · exact absurd rfl (h rest hrest).2
    · exact hnone

/-! ## Forwarded targets -/

theorem forwarded_of_slash {rest : Text} (h : rest.head? = some '/') : forwarded rest = rest :=
  if_pos h

theorem forwarded_of_not_slash {rest : Text} (h : rest.head? ≠ some '/') :
    forwarded rest = '/' :: rest :=
  if_neg h

theorem head?_forwarded (rest : Text) : (forwarded rest).head? = some '/' := by
  by_cases h : rest.head? = some '/'
  · rw [forwarded_of_slash h, h]
  · rw [forwarded_of_not_slash h]
    rfl

/-- Forwarding brings in no character, since the slash that it may put in front is also the first
character of the target. -/
theorem mem_of_mem_forwarded {c : Char} {rest : Text} (h : c ∈ forwarded rest) :
    c ∈ "/api".toList ++ rest := by
  by_cases hslash : rest.head? = some '/'
  · rw [forwarded_of_slash hslash] at h
    exact List.mem_append_right _ h
  · rw [forwarded_of_not_slash hslash] at h
    rcases List.mem_cons.mp h with rfl | h
    · exact List.mem_append_left rest (by decide)
    · exact List.mem_append_right _ h

/-- The target that a backend is asked for is solid if the one of the client is. -/
theorem solid_of_ofTarget {t p : Text} (ht : Text.Solid t) (h : ofTarget t = .proxy p) :
    p ≠ [] ∧ Text.Solid p := by
  obtain ⟨rest, -, rfl, rfl⟩ := ofTarget_eq_proxy_iff.mp h
  refine ⟨fun hnil => ?_, fun c hc => ht c (mem_of_mem_forwarded hc)⟩
  have hhead := head?_forwarded rest
  rw [hnil] at hhead
  cases hhead

/-! ## Targets that are forwarded alike -/

/-- Two targets for a backend that differ by a slash right behind `/api`, the first one without a
path. -/
inductive SlashApart : Text → Text → Prop where
  | bare : SlashApart "/api".toList "/api/".toList
  | query (q : Text) : SlashApart ("/api?".toList ++ q) ("/api/?".toList ++ q)

theorem SlashApart.ofTarget_eq {target target' : Text} (h : SlashApart target target') :
    ofTarget target = ofTarget target' := by
  cases h <;> rfl

/-- A remainder that has no slash gets one. -/
theorem slashApart_of_not_slash {rest : Text} (h : EndsSegment rest)
    (hslash : rest.head? ≠ some '/') :
    SlashApart ("/api".toList ++ rest) ("/api".toList ++ '/' :: rest) := by
  cases h with
  | nothing => exact .bare
  | path t => exact absurd rfl hslash
  | query t => exact .query t

/-- What is forwarded tells the remainder but for a slash that was put in front. -/
theorem eq_or_slashApart {rest rest' : Text} (h : EndsSegment rest) (h' : EndsSegment rest')
    (heq : forwarded rest = forwarded rest') :
    rest' = rest ∨ SlashApart ("/api".toList ++ rest) ("/api".toList ++ rest') ∨
      SlashApart ("/api".toList ++ rest') ("/api".toList ++ rest) := by
  by_cases hslash : rest.head? = some '/'
  · rw [forwarded_of_slash hslash] at heq
    by_cases hslash' : rest'.head? = some '/'
    · rw [forwarded_of_slash hslash'] at heq
      exact Or.inl heq.symm
    · rw [forwarded_of_not_slash hslash'] at heq
      exact Or.inr (Or.inr (heq ▸ slashApart_of_not_slash h' hslash'))
  · rw [forwarded_of_not_slash hslash] at heq
    by_cases hslash' : rest'.head? = some '/'
    · rw [forwarded_of_slash hslash'] at heq
      exact Or.inr (Or.inl (heq ▸ slashApart_of_not_slash h hslash))
    · rw [forwarded_of_not_slash hslash'] at heq
      exact Or.inl (List.cons.inj heq).2.symm

/-- Two targets are forwarded alike exactly if they are the same or a slash apart. -/
theorem ofTarget_eq_proxy_iff_of_eq {target target' f : Text} (h : ofTarget target = .proxy f) :
    ofTarget target' = .proxy f ↔
      target' = target ∨ SlashApart target target' ∨ SlashApart target' target := by
  constructor
  · intro h'
    obtain ⟨rest, hrest, rfl, hf⟩ := ofTarget_eq_proxy_iff.mp h
    obtain ⟨rest', hrest', rfl, hf'⟩ := ofTarget_eq_proxy_iff.mp h'
    rcases eq_or_slashApart hrest hrest' (hf.trans hf'.symm) with rfl | happart
    · exact Or.inl rfl
    · exact Or.inr happart
  · rintro (rfl | happart | happart)
    · exact h
    · rw [← happart.ofTarget_eq, h]
    · rw [happart.ofTarget_eq, h]

/-- A target is for the files exactly if it is `/static`, and for a backend exactly if it is `/api`,
each with nothing, a slash or a question mark behind it.  All others are not found.  A backend is
asked for what stands behind `/api`, with a slash in front if it has none.  So that starts with a
slash, holds no blank that the client did not send, and is what another target asks for only if the
two are a slash apart. -/
theorem ofTarget_grammar (target : Text) :
    (ofTarget target = .file ↔ ∃ rest, EndsSegment rest ∧ target = "/static".toList ++ rest) ∧
    (∀ f, ofTarget target = .proxy f ↔
      ∃ rest, EndsSegment rest ∧ target = "/api".toList ++ rest ∧
        (rest.head? = some '/' → f = rest) ∧ (rest.head? ≠ some '/' → f = '/' :: rest)) ∧
    (ofTarget target = .notFound ↔
      ∀ rest, EndsSegment rest →
        target ≠ "/static".toList ++ rest ∧ target ≠ "/api".toList ++ rest) ∧
    ∀ f, ofTarget target = .proxy f →
      f.head? = some '/' ∧ (∀ c ∈ f, Text.isBlank c = true → c ∈ target) ∧
        ∀ other, ofTarget other = .proxy f ↔
          other = target ∨ SlashApart target other ∨ SlashApart other target := by
  refine ⟨ofTarget_eq_file_iff, fun f => ?proxy, ofTarget_eq_notFound_iff, fun f hf => ?forwarded⟩
  case proxy =>
    rw [ofTarget_eq_proxy_iff]
    constructor
    · rintro ⟨rest, hrest, htarget, rfl⟩
      exact ⟨rest, hrest, htarget, forwarded_of_slash, forwarded_of_not_slash⟩
    · rintro ⟨rest, hrest, htarget, hslash, hnot⟩
      refine ⟨rest, hrest, htarget, ?_⟩
      by_cases h : rest.head? = some '/'
      · rw [forwarded_of_slash h, hslash h]
      · rw [forwarded_of_not_slash h, hnot h]
  case forwarded =>
    obtain ⟨rest, -, rfl, rfl⟩ := ofTarget_eq_proxy_iff.mp hf
    exact ⟨head?_forwarded rest, fun c hc _ => mem_of_mem_forwarded hc,
      fun other => ofTarget_eq_proxy_iff_of_eq hf⟩

/-- The question mark ends the segment, so the slashes behind it stay as they are, and one more in
front of it makes no difference. -/
theorem ofTarget_grammar_query :
    let target := "/api?to=/static//a".toList
    let forwarded := "/?to=/static//a".toList
    ofTarget target = .proxy forwarded ∧
      ofTarget "/api/?to=/static//a".toList = .proxy forwarded ∧
      ofTarget "/apis?to=/static//a".toList = .notFound := by
  intro target forwarded
  obtain ⟨-, hproxy, -, halike⟩ := ofTarget_grammar target
  have htarget : ofTarget target = .proxy forwarded :=
    (hproxy forwarded).mpr ⟨"?to=/static//a".toList, .query _, rfl, by decide, fun _ => rfl⟩
  obtain ⟨-, -, hother⟩ := halike forwarded htarget
  exact ⟨htarget, (hother _).mpr (.inr (.inl (.query "to=/static//a".toList))), by decide⟩

end Gateway.Route

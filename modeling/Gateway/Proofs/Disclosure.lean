import Gateway.Proofs.Segmentation

/-!
# What a client sees of a head

The head of a reply is meant for the gateway alone, and only what follows its blank line is relayed.
Two places have to agree on that.  The reader cuts a reply at the limit, and the relay looks for the
blank line in what is left.

If the limit admits the blank line, it is in all that is ever kept, since the reader stops early
only behind a whole head (`headEnd_add_le_of_receive`).  Then the client gets a part of what follows
the line.  If the limit falls before the end of the blank line, every way of reading the reply ends
at the limit (`receive_of_lt_headEnd`).  What is kept then holds no blank line, and the relay takes
it for a body: the client gets the head as far as it was read (`relayed_behind_head`).
-/

namespace Gateway.Proxy

open Gateway.Http

/-! ## The head in what is kept -/

/-- A reply whose blank line the limit does not admit is read up to the limit. -/
theorem receive_of_lt_headEnd (growth : Growth) {limit e : Nat} (hlimit : 0 < limit) {inlet : Inlet}
    (hhead : Framing.headEnd? inlet.delivered = some e) (hlt : limit < e + 4) :
    receive growth limit inlet = .ok (inlet.delivered.take limit) := by
  have hspec := receive_spec growth hlimit inlet
  have hlen := Framing.headEnd_add_le hhead
  cases hr : receive growth limit inlet with
  | error f =>
    obtain ⟨hshort, -⟩ := hspec.error f hr
    omega
  | ok b =>
    -- no end is declared before the head is whole, so nothing but the limit stops the reader
    rw [hspec.eq_take hr fun n hn => ?_]
    obtain ⟨e', d, he', -, -⟩ := Framing.declaredEnd?_eq_some_iff.mp hn
    rw [Framing.headEnd?_take_of_lt hhead hlt] at he'
    cases he'

/-- A blank line that the limit admits is in what is kept. -/
theorem headEnd_add_le_of_receive {growth : Growth} {limit e : Nat} (hlimit : 0 < limit)
    {inlet : Inlet} {b : Bytes} (hhead : Framing.headEnd? inlet.delivered = some e)
    (hle : e + 4 ≤ limit) (hb : receive growth limit inlet = .ok b) :
    b <+: inlet.delivered ∧ e + 4 ≤ b.length := by
  have hspec := receive_spec growth hlimit inlet
  have hpart : b <+: inlet.delivered := (hspec.isPrefix b hb).trans (List.take_prefix _ _)
  refine ⟨hpart, ?_⟩
  rcases hspec.enough b hb with rfl | hsat
  · have hlen := Framing.headEnd_add_le hhead
    rw [List.length_take]
    omega
  · obtain ⟨m, hm, hreach⟩ := isSatisfied_iff.mp hsat
    obtain ⟨e', d, he', -, rfl⟩ := Framing.declaredEnd?_eq_some_iff.mp hm
    have hwhole := Framing.headEnd?_of_isPrefix hpart he'
    rw [hhead] at hwhole
    cases hwhole
    exact Nat.le_trans (Framing.le_messageLength e d) hreach

/-! ## What is relayed -/

/-- There is a response only for a reply that was read. -/
theorem exists_receive_of_conclude {s : Settings} {growth : Growth} {endpoint : Endpoint}
    {i : Inlet} {r : Response} (h : conclude s growth endpoint (.accepted .sent i) = .ok r) :
    ∃ b, receive growth s.maxResponseSize i = .ok b ∧ relay s.policy b = .ok r := by
  have hconcludes := concludes s growth endpoint (.accepted .sent i)
  rw [h] at hconcludes
  obtain ⟨reply, b, hreply, hb, hrelay⟩ := hconcludes.exists_receive
  cases hreply
  exact ⟨b, hb, hrelay⟩

/-- All of a part without a blank line is relayed. -/
theorem relay_of_headEnd?_eq_none {reply : Bytes} (h : Framing.headEnd? reply = none)
    (policy : StatusPolicy) :
    relay policy reply
      = (replyStatus policy reply).map fun status => Response.build status .empty reply := by
  have hbody : replyBody reply = reply := by rw [replyBody, h]
  rw [relay_eq, hbody]

/-- Of a part with a blank line, a part of what follows the line in the whole is relayed. -/
theorem body_isPrefix_of_relay {policy : StatusPolicy} {part whole : Bytes} {e : Nat} {r : Response}
    (hpart : part <+: whole) (hhead : Framing.headEnd? whole = some e) (hle : e + 4 ≤ part.length)
    (h : relay policy part = .ok r) : r.body <+: whole.drop (e + 4) := by
  have hkept : Framing.headEnd? part = some e := Framing.headEnd?_eq_of_isPrefix hpart hhead hle
  obtain ⟨rest, rfl⟩ := hpart
  rw [body_of_relay h, replyBody_eq hkept, List.drop_append_of_le_length hle]
  exact List.prefix_append _ _

/-- If the limit admits the blank line of a reply, the client gets a part of what follows that line,
however the reply comes.  If it does not, the client gets what the limit admits of the head as the
body, unless the status is asked for and cannot be read. -/
theorem relayed_behind_head (s : Settings) (hlimit : 0 < s.maxResponseSize) (growth : Growth)
    (endpoint : Endpoint) {i : Inlet} {e : Nat}
    (hhead : Framing.headEnd? i.delivered = some e) :
    (e + 4 ≤ s.maxResponseSize → ∀ r, conclude s growth endpoint (.accepted .sent i) = .ok r →
      r.body <+: i.delivered.drop (e + 4)) ∧
    (s.maxResponseSize < e + 4 →
      let kept := i.delivered.take s.maxResponseSize
      conclude s growth endpoint (.accepted .sent i)
        = (replyStatus s.policy kept).map fun status => Response.build status .empty kept) := by
  constructor
  · intro hle r hr
    obtain ⟨b, hb, hrelay⟩ := exists_receive_of_conclude hr
    obtain ⟨hpart, hreach⟩ := headEnd_add_le_of_receive hlimit hhead hle hb
    exact body_isPrefix_of_relay hpart hhead hreach hrelay
  · intro hlt kept
    rw [conclude_of_receive (receive_of_lt_headEnd growth hlimit hhead hlt)]
    exact relay_of_headEnd?_eq_none (Framing.headEnd?_take_of_lt hhead hlt) s.policy

/-- A reply with a head that is not for the client. -/
def guardedReply : Bytes :=
  Utf8.encode "HTTP/1.1 200 OK\r\nX-Key: s3cret\r\n\r\nbody".toList

/-- A backend that sends it in two pieces and falls silent. -/
def guarding : Inlet :=
  [.data (guardedReply.take 12), .later, .data (guardedReply.drop 12), .silence, .silence]

/-- A limit within the body cuts the body, and one within the blank line lets the head through. -/
theorem relayed_behind_head_guarding :
    Framing.headEnd? guarding.delivered = some 30 ∧
      (∃ r, conclude { maxResponseSize := 36 } .doubling ⟨"localhost".toList, 80⟩
          (.accepted .sent guarding) = .ok r ∧ r.body <+: Utf8.encode "body".toList) ∧
      conclude { maxResponseSize := 33, policy := .propagate } .doubling ⟨"localhost".toList, 80⟩
          (.accepted .sent guarding)
        = .ok (.build .ok .empty (guardedReply.take 33)) := by
  have hhead : Framing.headEnd? guarding.delivered = some 30 := by decide
  refine ⟨hhead, ?_, ?_⟩
  · have hbody := (relayed_behind_head { maxResponseSize := 36 } (by decide) .doubling
      ⟨"localhost".toList, 80⟩ hhead).1 (by decide)
    cases hr : receive .doubling 36 guarding with
    | error f =>
      have hshort := ((receive_spec .doubling (by decide) guarding).error f hr).1
      exact absurd hshort (by decide)
    | ok b =>
      have hconclude :=
        @conclude_of_receive { maxResponseSize := 36 } .doubling ⟨"localhost".toList, 80⟩ _ _ hr
      rw [relay_eq] at hconclude
      exact ⟨_, hconclude, hbody _ hconclude⟩
  · have hcut := (relayed_behind_head { maxResponseSize := 33, policy := .propagate } (by decide)
      .doubling ⟨"localhost".toList, 80⟩ hhead).2 (by decide)
    exact hcut.trans rfl

/-- Not in every exchange is what the client gets a part of what follows the blank line.  A limit
that falls on the end of the header lines lets them all through. -/
theorem not_relayed_behind_head :
    ¬ ∀ (s : Settings) (endpoint : Endpoint) (i : Inlet) (e : Nat) (r : Response),
      0 < s.maxResponseSize → Framing.headEnd? i.delivered = some e →
        conclude s .doubling endpoint (.accepted .sent i) = .ok r →
          r.body <+: i.delivered.drop (e + 4) := by
  intro hall
  have hhead : Framing.headEnd? (Inlet.delivered [.data guardedReply]) = some 30 := by decide
  have hreceive : receive .doubling 30 [.data guardedReply] = .ok (guardedReply.take 30) :=
    receive_of_lt_headEnd .doubling (by decide) hhead (by decide)
  have hbody := hall { maxResponseSize := 30 } ⟨"localhost".toList, 80⟩ _ 30 _ (by decide) hhead
    (conclude_of_receive hreceive)
  have hlen := hbody.length_le
  exact absurd hlen (by decide)

end Gateway.Proxy

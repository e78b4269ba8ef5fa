import Gateway.Proofs.Exchange
import Gateway.Proofs.StatusLine

/-!
# Reading a response back

A response that is written can be read with the reader for replies: its status, the length that it
declares and its body are found where they were put, and it is one whole message
(`readBack_wire`).  Headers of the framing that are set in its map make no difference, since none
of them is repeated.

A gateway behind another one relays what that one has written.  So the status of a reply has to
survive being relayed, written and read.  It does if it is 100 or more (`status_relayed`).  A code
below that is taken from a reply, is written with fewer than three digits, and is not read by the
next gateway (`not_status_relayed`).
-/

namespace Gateway.Proxy

open Gateway.Http

/-- What a reader finds in the bytes of a response. -/
structure ReadBack (r : Response) (wire : Bytes) : Prop where
  status : StatusLine.parse? wire = some ⟨r.status.code, r.status.reason⟩
  /-- The body follows the first blank line. -/
  body : ∃ e, Framing.headEnd? wire = some e ∧ wire.drop (e + 4) = r.body
  length : Framing.declaredLength? wire = some r.body.length
  whole : Framing.IsOneMessage wire
  /-- A gateway that gets them as a reply hands on the status and the body. -/
  relayed : ∃ r', relay .propagate wire = .ok r' ∧ r'.status.code = r.status.code ∧
    r'.body = r.body

/-- A response whose code has three digits is read as it was written.  Its size is counted in 64
bits. -/
theorem readBack_wire {r : Response} (hlow : 100 ≤ r.status.code.toNat)
    (hhigh : r.status.code.toNat ≤ 999) (hclean : r.headers.Clean)
    (hlen : r.wire.length < Numeral.limit64) : ReadBack r r.wire := by
  have hstatus : StatusLine.parse? r.wire = some ⟨r.status.code, r.status.reason⟩ := by
    rw [StatusLine.parse?_wire, if_pos ⟨hlow, hhigh⟩]
  obtain ⟨e, hhead, hbody⟩ := Response.headEnd?_wire hclean
  exact {
    status := hstatus
    body := ⟨e, hhead, hbody⟩
    length := Response.declaredLength?_wire hclean
      (Nat.lt_of_le_of_lt r.length_body_le_wire hlen)
    whole := Response.isOneMessage_wire hclean hlen
    relayed := ⟨_, relay_propagate hstatus hhead, Status.code_ofCode _, hbody⟩ }

/-- A response with a body that looks like a message, under headers that say otherwise. -/
def nested : Response where
  status := .other 299
  headers := .ofList [("CONNECTION".toList, "x".toList), ("X-Note".toList, " a: b ".toList),
    ("content-LENGTH".toList, "7".toList)]
  body := Utf8.encode "HTTP/1.1 200 OK\r\nContent-Length: 1\r\n\r\n\r\n\r\n".toList

theorem readBack_wire_nested : ReadBack nested nested.wire := by
  have hsorted : nested.headers.sorted = nested.headers.entries :=
    List.mergeSort_of_pairwise (by decide)
  have hlen : nested.wire.length < Numeral.limit64 := by
    rw [Response.wire, Response.wireHead, hsorted]
    decide
  exact readBack_wire (by decide) (by decide) (by decide) hlen

/-! ## Relaying a status -/

/-- The status of a reply that is accepted has at most three digits, and it survives being written
and read exactly if it has three. -/
theorem status_relayed {reply : Bytes} {r : Response} (h : relay .propagate reply = .ok r) :
    ∃ line, StatusLine.parse? reply = some line ∧ r.status.code = line.code ∧
      line.code.toNat ≤ 999 ∧
      StatusLine.parse? r.wire =
        if 100 ≤ line.code.toNat then some ⟨line.code, r.status.reason⟩ else none := by
  obtain ⟨line, hline, hcode⟩ := exists_line_of_relay h
  have hhigh := StatusLine.code_le_of_parse? hline
  refine ⟨line, hline, hcode, hhigh, ?_⟩
  rw [StatusLine.parse?_wire, hcode]
  simp only [hhigh, and_true]

/-- A reply with a code that has no phrase of its own. -/
def unnamedReply : Bytes := Utf8.encode "HTTP/1.0 299 Quite well\r\n\r\nb".toList

/-- The response that is made of it. -/
def unnamed : Response := .build (.other 299) .empty (Utf8.encode ['b'])

theorem status_relayed_unnamed :
    relay .propagate unnamedReply = .ok unnamed ∧
      StatusLine.parse? unnamed.wire = some ⟨299, "Unknown".toList⟩ := by
  have hrelay : relay .propagate unnamedReply = .ok unnamed := by decide
  obtain ⟨line, hline, -, -, hwire⟩ := status_relayed hrelay
  have hread : StatusLine.parse? unnamedReply = some ⟨299, "Quite well".toList⟩ := by decide
  cases hline.symm.trans hread
  exact ⟨hrelay, hwire⟩

/-- A reply whose code has a plus sign in place of a digit. -/
def signedReply : Bytes := Utf8.encode "HTTP/1.1 +99 Odd\r\n\r\nb".toList

/-- Its code is read and relayed, and what is written for it cannot be read. -/
theorem not_status_relayed :
    StatusLine.parse? signedReply = some ⟨99, "Odd".toList⟩ ∧
      ∃ r, relay .propagate signedReply = .ok r ∧ StatusLine.parse? r.wire = none := by
  refine ⟨by decide, _, rfl, ?_⟩
  rw [StatusLine.parse?_wire]
  exact if_neg (by decide)

end Gateway.Proxy

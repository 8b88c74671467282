import ChainView.Proofs.Chain.Wire
import ChainView.Proofs.Digest
import ChainView.Proofs.Node.Finality
import ChainView.Proofs.Node.Transcript
import ChainView.Proofs.Rpc.Classification
import ChainView.Proofs.Rpc.Wire

/-!
# The headers that clients see

Three methods give out headers: the newest ones, the ones at a height, and the one with an id.  They
look them up in different ways and write them as different results, a list of many, a list of one,
and a single object.  A client reads a result back into headers (`resultAs?`), and what it reads
does not depend on the method: all three speak of the same headers, those that the window of the
node keeps.  An id may be asked for in each of its spellings, and the bytes of the answer are the
same for all.
-/

namespace ChainView.Rpc

open Json

/-! ## What a client reads -/

/-- The result that a client reads from the bytes of a response by a decoder. -/
def resultAs? {α : Type} (d : Decoder α) (bytes : Bytes) : Option α :=
  match Json.decode Response.shape.decoder bytes with
  | .error _ => none
  | .ok response =>
    match response.result with
    | none => none
    | some v => (Json.decode d v.write).toOption

/-- The code of the error that a client reads from the bytes of a response. -/
def errorCode? (bytes : Bytes) : Option Int32 :=
  match Json.decode Response.shape.decoder bytes with
  | .error _ => none
  | .ok response => response.error.map ErrorObject.code

section Client

variable {α : Type} {d : Decoder α} {view : NodeView} {body : Bytes}

/-- The response of a node is what a client reads from its bytes. -/
lemma decode_write_response (view : NodeView) (body : Bytes) :
    Json.decode Response.shape.decoder (nodeRegistry.response view body).write =
      .ok (nodeRegistry.response view body) :=
  (Registry.readable_response returns_nodeMethods view body).decode_write

/-- A client reads the result that a method yields, if it is read by the decoder. -/
lemma resultAs?_of_yields (hs : view.node.Sound) {request : Request} {result : Value} {a : α}
    (hr : request.WrittenBy body) (hyields : Yields view request.method request.params result)
    (hread : Reads (d nestingLimit) result a) :
    resultAs? d (nodeRegistry.response view body).write = some a := by
  have hresponse : nodeRegistry.response view body = .ofResult request.id result := by
    rw [Registry.response, reply_of_yields hs hr hyields]
  have hdecode := decode_write_response view body
  rw [hresponse] at hdecode ⊢
  have hresult : Json.decode d result.write = .ok a := readAll_write hread
  simp only [resultAs?, hdecode]
  change (Json.decode d result.write).toOption = some a
  rw [hresult]
  rfl

/-- A client that asks for what is not kept reads the code for that, and no result. -/
lemma errorCode?_of_missing (hs : view.node.Sound) {request : Request}
    (hr : request.WrittenBy body) (hmissing : Missing view.node request.method request.params) :
    errorCode? (nodeRegistry.response view body).write = some (-32001) ∧
      resultAs? d (nodeRegistry.response view body).write = none := by
  obtain ⟨what, hcall⟩ := hmissing.call hs
  have hresponse : nodeRegistry.response view body =
      .ofError (some request.id) (Failure.missing what).toErrorObject := by
    rw [Registry.response, reply_of_writtenBy hr, Registry.answer, hcall]
    rfl
  have hdecode := decode_write_response view body
  rw [hresponse] at hdecode ⊢
  simp only [errorCode?, resultAs?, hdecode]
  exact ⟨rfl, rfl⟩

end Client

/-! ## Headers in results -/

/-- A list of headers is read back from a result. -/
lemma reads_headers {depth : ℕ} (hs : List Header) :
    Reads (Decoder.list Header.shape.decoder (depth + 2))
      (Value.array (hs.map Header.toJson)).sortKeys hs := by
  have hsorted : (Value.array (hs.map Header.toJson)).sortKeys =
      .array (hs.map fun h => h.toJson.sortKeys) := by
    rw [Value.sortKeys, sortItems_eq_map, List.map_map]
    rfl
  have hexact : ∀ h ∈ hs, h.toJson.sortKeys.Exact 1 := fun h _ => h.exact_toJson.sortKeys
  have hread : Reads (Decoder.list Header.shape.decoder (depth + 2))
      (.array (hs.map fun h => h.toJson.sortKeys)) (hs.map fun h => h) :=
    reads_list hexact fun h _ => h.reads_sortKeys
  rw [List.map_id'] at hread
  rw [hsorted]
  exact hread

/-! ## The three methods -/

/-- A body asks a method with one parameter, under any id. -/
def Asks (method : String) (param : Value) (body : Bytes) : Prop :=
  ∃ id, (⟨method, [param], id⟩ : Request).WrittenBy body

section Methods

variable {view : NodeView} {body : Bytes}

/-- A client that asks for recent headers reads as many of the newest ones as there are. -/
lemma resultAs?_recentHeaders (hs : view.node.Sound) {count : UInt64}
    (hasks : Asks "strata_getRecentBlockHeaders" (.word count) body) :
    resultAs? (Decoder.list Header.shape.decoder) (nodeRegistry.response view body).write =
      some (view.node.window.headers.reverse.take count.toNat) := by
  obtain ⟨id, hr⟩ := hasks
  exact resultAs?_of_yields hs hr .recentHeaders (reads_headers _)

/-- A client that asks for a height reads the header that is kept there, in a list, or the code for
what is not kept. -/
lemma resultAs?_headersAtIndex (hs : view.node.Sound) {index : UInt64}
    (hasks : Asks "strata_getHeadersAtIdx" (.word index) body) :
    (∃ h ∈ view.node.window.headers, h.index = index ∧
        resultAs? (Decoder.list Header.shape.decoder) (nodeRegistry.response view body).write =
          some [h]) ∨
      (∀ h ∈ view.node.window.headers, h.index ≠ index) ∧
        resultAs? (Decoder.list Header.shape.decoder) (nodeRegistry.response view body).write =
          none ∧
        errorCode? (nodeRegistry.response view body).write = some (-32001) := by
  obtain ⟨id, hr⟩ := hasks
  by_cases hkept : ∃ h ∈ view.node.window.headers, h.index = index
  · obtain ⟨h, hh, rfl⟩ := hkept
    exact .inl ⟨h, hh, rfl, resultAs?_of_yields hs hr (.headersAtIndex hh) (reads_headers [h])⟩
  · have hnone : ∀ h ∈ view.node.window.headers, h.index ≠ index :=
      fun h hh hindex => hkept ⟨h, hh, hindex⟩
    obtain ⟨hcode, hresult⟩ := errorCode?_of_missing hs hr (.header hnone)
    exact .inr ⟨hnone, hresult, hcode⟩

/-- A client that asks for an id, in any of its spellings, reads the highest header with it that is
kept, or the code for what is not kept. -/
lemma resultAs?_headerWithId (hs : view.node.Sound) {id : Digest} {text : String}
    (hspelled : id.SpelledBy text) (hasks : Asks "strata_getHeaderById" (.string text) body) :
    (∃ h ∈ view.node.window.headers, h.id = id ∧
        resultAs? Header.shape.decoder (nodeRegistry.response view body).write = some h) ∨
      (∀ h ∈ view.node.window.headers, h.id ≠ id) ∧
        resultAs? Header.shape.decoder (nodeRegistry.response view body).write = none ∧
        errorCode? (nodeRegistry.response view body).write = some (-32001) := by
  have htext := Digest.ofHex_of_spelledBy hspelled
  obtain ⟨requestId, hr⟩ := hasks
  by_cases hkept : ∃ h ∈ view.node.window.headers, h.id = id
  · obtain ⟨h, hh, rfl, hhigh⟩ := exists_highest hs.linked hkept
    exact .inl ⟨h, hh, rfl,
      resultAs?_of_yields hs hr (.headerWithId htext hh hhigh) h.reads_sortKeys⟩
  · have hnone : ∀ h ∈ view.node.window.headers, h.id ≠ id :=
      fun h hh hid => hkept ⟨h, hh, hid⟩
    obtain ⟨hcode, hresult⟩ := errorCode?_of_missing hs hr (.id htext hnone)
    exact .inr ⟨hnone, hresult, hcode⟩

/-- The spelling of an id does not show in the response. -/
lemma response_congr_of_spelledBy {id : Digest} {text text' : String} {body' : Bytes}
    (h : id.SpelledBy text) (h' : id.SpelledBy text') {requestId : RequestId}
    (hr : (⟨"strata_getHeaderById", [.string text], requestId⟩ : Request).WrittenBy body)
    (hr' : (⟨"strata_getHeaderById", [.string text'], requestId⟩ : Request).WrittenBy body') :
    nodeRegistry.response view body = nodeRegistry.response view body' := by
  have hcall := call_headerWithId view (Digest.ofHex_of_spelledBy h)
  have hcall' := call_headerWithId view (Digest.ofHex_of_spelledBy h')
  rw [Registry.response, Registry.response, reply_of_writtenBy hr, reply_of_writtenBy hr',
    Registry.answer, Registry.answer, hcall, hcall']

end Methods

/-- The three methods that give out headers speak of the same headers.  Take any reports to a fresh
node, such that the headers it took in bear different ids, and let `kept` be as many of these as it
keeps, newest first: each extends the next one.  Whatever the counters, a client that asks for a
number of recent headers reads the first of `kept`, as many as there are, and all of them if it asks
for the greatest number.  For a height it reads a header in a list of one exactly if the header is
kept and stands there, and for an id, however it is spelled, exactly if the header is kept and bears
it; the bytes that answer a request for an id do not depend on the spelling.  For a height or an id
that none of them has it reads the code -32001. -/
theorem header_methods_agree (retention : Retention) (network : String) (reports : List Report)
    (version blockTime : UInt64) (counters : Counters) (elapsed : UInt64)
    (hids : ((Node.accepted retention network reports).map Header.id).Nodup) :
    let accepted := Node.accepted retention network reports
    let kept := (accepted.rtake (max retention.maxHeaders.toNat 1)).reverse
    let view : NodeView := ⟨Node.after retention network reports, version, blockTime⟩
    let ask (body : Bytes) :=
      ((⟨nodeRegistry, counters⟩ : Responder NodeView).answer view body elapsed).1
    let headers := resultAs? (Decoder.list Header.shape.decoder)
    let header := resultAs? Header.shape.decoder
    (kept.length = min (max retention.maxHeaders.toNat 1) accepted.length ∧
        kept.head? = accepted.getLast? ∧
        kept.IsChain fun child parent => child.extends? parent = true) ∧
      (∀ count body, Asks "strata_getRecentBlockHeaders" (.word count) body →
        headers (ask body) = some (kept.take count.toNat) ∧
          (kept.take count.toNat).length = min count.toNat kept.length) ∧
      (∀ body, Asks "strata_getRecentBlockHeaders" (.word 18446744073709551615) body →
        headers (ask body) = some kept) ∧
      (∀ h body, Asks "strata_getHeadersAtIdx" (.word h.index) body →
        (headers (ask body) = some [h] ↔ h ∈ kept)) ∧
      (∀ h text body, h.id.SpelledBy text → Asks "strata_getHeaderById" (.string text) body →
        (header (ask body) = some h ↔ h ∈ kept)) ∧
      (∀ (id : Digest) (text text' : String) (requestId : RequestId) (body body' : Bytes),
        id.SpelledBy text → id.SpelledBy text' →
        (⟨"strata_getHeaderById", [.string text], requestId⟩ : Request).WrittenBy body →
        (⟨"strata_getHeaderById", [.string text'], requestId⟩ : Request).WrittenBy body' →
          ask body = ask body') ∧
      (∀ index body, Asks "strata_getHeadersAtIdx" (.word index) body →
        (∀ h ∈ kept, h.index ≠ index) → errorCode? (ask body) = some (-32001)) ∧
      ∀ (id : Digest) text body, id.SpelledBy text →
        Asks "strata_getHeaderById" (.string text) body →
        (∀ h ∈ kept, h.id ≠ id) → errorCode? (ask body) = some (-32001) := by
  intro accepted kept view ask headers header
  have hs : view.node.Sound := Node.sound_after retention network reports
  have ht : view.node.window.Tracks accepted := Node.tracks_after retention network reports
  have hbound : view.node.window.retention = max retention.maxHeaders.toNat 1 :=
    Node.retention_after retention network reports
  have hkept : kept = view.node.window.headers.reverse := by
    rw [ht.headers_eq, hbound]
  have hmem : ∀ h, h ∈ kept ↔ h ∈ view.node.window.headers := by
    intro h
    rw [hkept, List.mem_reverse]
  have hlength : kept.length = min (max retention.maxHeaders.toNat 1) accepted.length := by
    rw [hkept, List.length_reverse, ht.length_headers, hbound]
  have hmax : kept.length ≤ 18446744073709551615 := by
    have hlt := retention.maxHeaders.toNat_lt
    omega
  have hrecent : ∀ count body, Asks "strata_getRecentBlockHeaders" (.word count) body →
      headers (ask body) = some (kept.take count.toNat) := by
    intro count body hasks
    rw [hkept]
    exact resultAs?_recentHeaders hs hasks
  refine ⟨⟨hlength, ?_, ?_⟩, ?_, ?_, ?_, ?_, ?_, ?_, ?_⟩
  · rw [hkept, List.head?_reverse]
    exact ht.newest?_eq
  · rw [hkept, List.isChain_reverse]
    exact hs.linked
  · intro count body hasks
    exact ⟨hrecent count body hasks, List.length_take⟩
  · intro body hasks
    rw [hrecent _ body hasks]
    exact congrArg some (List.take_of_length_le hmax)
  · intro h body hasks
    rw [hmem]
    rcases resultAs?_headersAtIndex hs hasks with ⟨g, hg, hindex, hresult⟩ | ⟨hnone, hresult, -⟩
    · have hresult : headers (ask body) = some [g] := hresult
      rw [hresult, Option.some_inj, List.singleton_inj]
      refine ⟨fun heq => heq ▸ hg, fun hh => ?_⟩
      exact hs.linked.eq_of_index_eq hg hh hindex
    · have hresult : headers (ask body) = none := hresult
      rw [hresult]
      exact ⟨nofun, fun hh => absurd rfl (hnone h hh)⟩
  · intro h text body hspelled hasks
    rw [hmem]
    rcases resultAs?_headerWithId hs hspelled hasks with
      ⟨g, hg, hid, hresult⟩ | ⟨hnone, hresult, -⟩
    · have hresult : header (ask body) = some g := hresult
      rw [hresult, Option.some_inj]
      refine ⟨fun heq => heq ▸ hg, fun hh => ?_⟩
      exact ht.eq_of_id_eq hids hg (ht.mem_of_mem_headers hh) hid
    · have hresult : header (ask body) = none := hresult
      rw [hresult]
      exact ⟨nofun, fun hh => absurd rfl (hnone h hh)⟩
  · intro id text text' requestId body body' h h' hr hr'
    exact congrArg Response.write (response_congr_of_spelledBy h h' hr hr')
  · intro index body hasks hnone
    rcases resultAs?_headersAtIndex hs hasks with ⟨g, hg, hindex, -⟩ | ⟨-, -, hcode⟩
    · exact absurd hindex (hnone g ((hmem g).mpr hg))
    · exact hcode
  · intro id text body hspelled hasks hnone
    rcases resultAs?_headerWithId hs hspelled hasks with ⟨g, hg, hid, -⟩ | ⟨-, -, hcode⟩
    · exact absurd hid (hnone g ((hmem g).mpr hg))
    · exact hcode

/-- Three headers in a window of two.  The second one is found by its id in capital digits and with
the mark in front, and the first one, which the window has forgotten, is not found. -/
theorem header_methods_agree_after_three_headers :
    let first : Header := .bare 0 (.filled 0xAA) .zero
    let second : Header := .bare 1 (.filled 0xBB) (.filled 0xAA)
    let third : Header := .bare 2 (.filled 0xCC) (.filled 0xBB)
    let reports : List Report := [.header first, .header second, .header third]
    let view : NodeView := ⟨Node.after ⟨2, 1⟩ "signet" reports, 1, 5000⟩
    let ask (body : Bytes) :=
      ((⟨nodeRegistry, .zero⟩ : Responder NodeView).answer view body 3).1
    let body (text : String) := (Value.object [("id", .word 7), ("jsonrpc", .string "2.0"),
      ("method", .string "strata_getHeaderById"), ("params", .array [.string text])]).write
    let capital := "0x" ++ String.ofList (List.replicate 64 'B')
    ((Node.accepted ⟨2, 1⟩ "signet" reports).map Header.id).Nodup ∧
      second.id.SpelledBy capital ∧
      resultAs? Header.shape.decoder (ask (body capital)) = some second ∧
      errorCode? (ask (body first.id.toHex)) = some (-32001) := by
  intro first second third reports view ask body capital
  have hids : ((Node.accepted ⟨2, 1⟩ "signet" reports).map Header.id).Nodup := by decide
  have hkept : ((Node.accepted ⟨2, 1⟩ "signet" reports).rtake 2).reverse = [third, second] := by
    decide
  have hspelled : second.id.SpelledBy capital :=
    ⟨String.ofList (List.replicate 64 'B'), by decide +kernel, .inr rfl⟩
  have hasks : ∀ text, Asks "strata_getHeaderById" (.string text) (body text) := by
    intro text
    have hexact : (Value.object [("id", .word 7), ("jsonrpc", .string "2.0"),
        ("method", .string "strata_getHeaderById"),
        ("params", .array [.string text])]).Exact 2 := by
      refine .object ?_
      simp only [List.forall_mem_cons]
      exact ⟨.integer _, .string _, .string _,
        .array (List.forall_mem_singleton.mpr (.string _)), List.forall_mem_nil _⟩
    have hparse := parse_write hexact (by decide)
    simp +decide only [Value.sortKeys, sortValues, sortItems, orderMembers, insertMember,
      Value.word, List.foldl, if_false] at hparse
    have hname : "strata_getHeaderById" ≠ "" ∧ "strata_getHeaderById".utf8ByteSize ≤ 256 := by
      decide
    have hexactId : ∀ x, RequestId.integer (.ofUInt64 7) ≠ .float x := by
      rintro x ⟨⟩
    exact ⟨.integer (.ofUInt64 7), _, hparse, rfl, hexactId, rfl, rfl, hname.1, hname.2, .inl rfl⟩
  obtain ⟨-, -, -, -, hfound, -, -, hmissing⟩ :=
    header_methods_agree ⟨2, 1⟩ "signet" reports 1 5000 .zero 3 hids
  refine ⟨hids, hspelled, ?_, ?_⟩
  · refine (hfound second capital (body capital) hspelled (hasks capital)).mpr ?_
    exact hkept ▸ List.mem_cons_of_mem third List.mem_cons_self
  · refine hmissing first.id first.id.toHex (body first.id.toHex) first.id.spelledBy_toHex
      (hasks first.id.toHex) ?_
    change ∀ h ∈ ((Node.accepted ⟨2, 1⟩ "signet" reports).rtake 2).reverse, h.id ≠ first.id
    rw [hkept]
    decide

end ChainView.Rpc

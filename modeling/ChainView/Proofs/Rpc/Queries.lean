import Mathlib.Data.List.Nodup
import ChainView.Proofs.Node.Transition
import ChainView.Proofs.Rpc.Parameters
import ChainView.Rpc.NodeMethods

/-!
# What the methods of a node answer

The methods, their parameters and the data they read are given once more, as tables: `schema` lists
names and kinds, `Yields` says what each method answers, and `Missing` what may not be there.  They
speak of the headers and L1 blocks that are kept, not of the ways in which they are looked up.  A
call with parameters that fit is of one of the two kinds (`exists_yields_or_missing`), and the
registry answers each kind as its table says.  Heights and ids are looked up in sound histories
only, which is all that reports can lead to.
-/

namespace ChainView.Rpc

/-! ## The methods as a table -/

/-- The names of the methods of a node, with the kinds of their parameters. -/
def schema : List (String × List ParameterKind) := [
  ("strata_protocolVersion", []),
  ("strata_blockTime", []),
  ("strata_l1connected", []),
  ("strata_l1status", []),
  ("strata_getL1blockHash", [.word]),
  ("strata_clientStatus", []),
  ("strata_syncStatus", []),
  ("strata_getRecentBlockHeaders", [.word]),
  ("strata_getHeadersAtIdx", [.word]),
  ("strata_getHeaderById", [.digest])]

/-- What a call asks for is not kept by the node. -/
inductive Missing (n : Node) : String → Parameters → Prop
  /-- There is no L1 block at the height. -/
  | l1Block {height : UInt64} (h : ∀ hash, (height, hash) ∉ n.l1Table.blocks) :
      Missing n "strata_getL1blockHash" [.word height]
  /-- There is no header at the height. -/
  | header {index : UInt64} (h : ∀ header ∈ n.window.headers, header.index ≠ index) :
      Missing n "strata_getHeadersAtIdx" [.word index]
  /-- There is no header with the id. -/
  | id {text : String} {id : Digest} (htext : Digest.ofHex text = .ok id)
      (h : ∀ header ∈ n.window.headers, header.id ≠ id) :
      Missing n "strata_getHeaderById" [.string text]

/-- What a call answers from a view of a node.  Objects are written with their keys in order. -/
inductive Yields (view : NodeView) : String → Parameters → Json.Value → Prop
  /-- The version of the protocol. -/
  | protocolVersion : Yields view "strata_protocolVersion" [] (.word view.protocolVersion)
  /-- The target time between blocks. -/
  | blockTime : Yields view "strata_blockTime" [] (.word view.blockTime)
  /-- Whether the reader of the L1 chain reaches its node. -/
  | l1Connected : Yields view "strata_l1connected" [] (.bool view.node.snapshot.l1.connected)
  /-- The published L1 status. -/
  | l1Status : Yields view "strata_l1status" [] view.node.snapshot.l1.toJson.sortKeys
  /-- The hash of the L1 block at a height. -/
  | l1BlockHash {height : UInt64} {hash : Digest} (h : (height, hash) ∈ view.node.l1Table.blocks) :
      Yields view "strata_getL1blockHash" [.word height] hash.toJson
  /-- The published client status. -/
  | clientStatus : Yields view "strata_clientStatus" [] view.node.snapshot.client.toJson.sortKeys
  /-- The part of it for syncing peers. -/
  | syncStatus : Yields view "strata_syncStatus" [] view.node.snapshot.client.sync.toJson.sortKeys
  /-- The newest headers, newest first, as many as there are up to a number. -/
  | recentHeaders {count : UInt64} :
      Yields view "strata_getRecentBlockHeaders" [.word count]
        (Json.Value.array
          ((view.node.window.headers.reverse.take count.toNat).map Header.toJson)).sortKeys
  /-- The header at a height. -/
  | headersAtIndex {header : Header} (h : header ∈ view.node.window.headers) :
      Yields view "strata_getHeadersAtIdx" [.word header.index]
        (Json.Value.array [header.toJson]).sortKeys
  /-- The header with an id; of several, the highest. -/
  | headerWithId {text : String} {header : Header} (htext : Digest.ofHex text = .ok header.id)
      (h : header ∈ view.node.window.headers)
      (hhigh : ∀ g ∈ view.node.window.headers, g.id = header.id → g.index ≤ header.index) :
      Yields view "strata_getHeaderById" [.string text] header.toJson.sortKeys

/-! ## The registry and the table -/

/-- The registered methods are those of the table. -/
lemma map_entries_nodeRegistry :
    nodeRegistry.entries.map (fun m => (m.name, m.params)) = schema := rfl

/-- No name stands twice in the table. -/
lemma nodup_names_schema : (schema.map Prod.fst).Nodup := by decide

/-- Names that are not in the table are not registered. -/
lemma find?_nodeRegistry_of_not_mem {name : String} (h : name ∉ schema.map Prod.fst) :
    nodeRegistry.find? name = none := by
  refine List.find?_eq_none.mpr ?_
  intro m hm hname
  refine h (List.mem_map.mpr ⟨(m.name, m.params), ?_, of_decide_eq_true hname⟩)
  rw [← map_entries_nodeRegistry]
  exact List.mem_map_of_mem hm

/-- Names that are in the table are registered with the kinds that stand there. -/
lemma exists_find?_nodeRegistry {name : String} {kinds : List ParameterKind}
    (h : (name, kinds) ∈ schema) : ∃ m, nodeRegistry.find? name = some m ∧ m.params = kinds := by
  obtain ⟨m, hm⟩ : ∃ m, nodeRegistry.find? name = some m := by
    apply Option.isSome_iff_exists.mp
    rw [Registry.find?, List.find?_isSome]
    rw [← map_entries_nodeRegistry] at h
    obtain ⟨m, hm, heq⟩ := List.mem_map.mp h
    exact ⟨m, hm, by simpa using congrArg Prod.fst heq⟩
  refine ⟨m, hm, ?_⟩
  unfold Registry.find? at hm
  have hname : m.name = name := by simpa using List.find?_some hm
  have hentry : (m.name, m.params) ∈ schema := by
    rw [← map_entries_nodeRegistry]
    exact List.mem_map_of_mem (List.mem_of_find?_eq_some hm)
  exact congrArg Prod.snd (List.inj_on_of_nodup_map nodup_names_schema hentry h hname)

/-! ## The handlers -/

/-- A call of a method with one parameter answers what the method finds for it. -/
lemma call_asking {α : Type} {r : Registry NodeView} {name description : String}
    {kind : ParameterKind} {get : Parameters → Except Failure α}
    {answer : NodeView → α → Except Failure Json.Value} {v : Json.Value} {a : α}
    (hfind : r.find? name = some (asking name description kind get answer))
    (hkind : kind.Admits v) (hget : get [v] = .ok a) (view : NodeView) :
    r.call view name [v] = .ok (.ofExcept ((answer view a).map Json.Value.sortKeys)) := by
  have hcheck : (asking name description kind get answer).checkParameters [v] = .ok () :=
    Method.checkParameters_eq_ok_iff.mpr (not_misfit_singleton_iff.mpr hkind)
  simp only [Registry.call, hfind, hcheck]
  simp only [asking, hget]
  cases answer view a <;> rfl

/-- A call for an L1 block answers the hash that the table of the node finds. -/
lemma call_l1BlockHash (view : NodeView) (height : UInt64) :
    nodeRegistry.call view "strata_getL1blockHash" [.word height] =
      .ok (.ofExcept (((view.l1HashAt height).map Digest.toJson).map Json.Value.sortKeys)) := by
  rw [call_asking rfl (ParameterKind.admits_word height) (Parameters.word_cons height [])]

/-- A call for a height answers the header that the window of the node finds, in a list. -/
lemma call_headersAtIndex (view : NodeView) (index : UInt64) :
    nodeRegistry.call view "strata_getHeadersAtIdx" [.word index] =
      .ok (.ofExcept (((view.headerAtHeight index).map fun h => .array [h.toJson]).map
        Json.Value.sortKeys)) := by
  rw [call_asking rfl (ParameterKind.admits_word index) (Parameters.word_cons index [])]

/-- A call for an id answers the header that the window of the node finds. -/
lemma call_headerWithId (view : NodeView) {text : String} {id : Digest}
    (htext : Digest.ofHex text = .ok id) :
    nodeRegistry.call view "strata_getHeaderById" [.string text] =
      .ok (.ofExcept (((view.headerWithId id).map Header.toJson).map Json.Value.sortKeys)) := by
  rw [call_asking rfl (ParameterKind.admits_digest htext) (Parameters.digest_cons htext [])]

/-- A call for recent headers answers as many of the newest ones as there are. -/
lemma call_recentHeaders (view : NodeView) (count : UInt64) :
    nodeRegistry.call view "strata_getRecentBlockHeaders" [.word count] =
      .ok (.value (Json.Value.array
        ((view.node.window.recent count.toNat).map Header.toJson)).sortKeys) := by
  rw [call_asking rfl (ParameterKind.admits_word count) (Parameters.word_cons count [])]
  rfl

/-- A call of a method that yields a result returns it. -/
lemma Yields.call {view : NodeView} (hs : view.node.Sound) {method : String} {ps : Parameters}
    {result : Json.Value} (hy : Yields view method ps result) :
    nodeRegistry.call view method ps = .ok (.value result) := by
  cases hy with
  | protocolVersion => rfl
  | blockTime => rfl
  | l1Connected => rfl
  | l1Status => rfl
  | clientStatus => rfl
  | syncStatus => rfl
  | l1BlockHash h =>
    have hget := (L1Table.get?_eq_some_iff hs.ordered).mpr h
    rw [call_l1BlockHash, NodeView.l1HashAt, hget]
    rfl
  | @recentHeaders count => exact call_recentHeaders view count
  | headersAtIndex h =>
    have hget := (Window.atHeight?_eq_some_iff hs.linked).mpr ⟨h, rfl⟩
    rw [call_headersAtIndex, NodeView.headerAtHeight, hget]
    rfl
  | headerWithId htext h hhigh =>
    have hget := (Window.withId?_eq_some_iff hs.linked).mpr ⟨h, rfl, hhigh⟩
    rw [call_headerWithId view htext, NodeView.headerWithId, hget]
    rfl

/-- A call that asks for what is not kept fails, and says so. -/
lemma Missing.call {view : NodeView} (hs : view.node.Sound) {method : String} {ps : Parameters}
    (hm : Missing view.node method ps) :
    ∃ what, nodeRegistry.call view method ps = .ok (.failed (.missing what)) := by
  cases hm with
  | @l1Block height h =>
    have hget : view.node.l1Table.get? height = none := by
      refine Option.eq_none_iff_forall_ne_some.mpr ?_
      intro hash hfound
      exact h hash ((L1Table.get?_eq_some_iff hs.ordered).mp hfound)
    refine ⟨"L1 block at height " ++ toString height, ?_⟩
    rw [call_l1BlockHash, NodeView.l1HashAt, hget]
    rfl
  | @header index h =>
    have hget : view.node.window.atHeight? index = none := by
      refine Option.eq_none_iff_forall_ne_some.mpr ?_
      intro header hfound
      obtain ⟨hmem, hindex⟩ := (Window.atHeight?_eq_some_iff hs.linked).mp hfound
      exact h header hmem hindex
    refine ⟨"block header at index " ++ toString index, ?_⟩
    rw [call_headersAtIndex, NodeView.headerAtHeight, hget]
    rfl
  | @id text id htext h =>
    have hget : view.node.window.withId? id = none := by
      refine Option.eq_none_iff_forall_ne_some.mpr ?_
      intro header hfound
      obtain ⟨hmem, hid, -⟩ := (Window.withId?_eq_some_iff hs.linked).mp hfound
      exact h header hmem hid
    refine ⟨"block " ++ id.toHex, ?_⟩
    rw [call_headerWithId view htext, NodeView.headerWithId, hget]
    rfl

/-- Of the headers with an id there is a highest one. -/
lemma exists_highest {w : Window} (hl : Linked w.headers) {id : Digest}
    (hkept : ∃ header ∈ w.headers, header.id = id) :
    ∃ h ∈ w.headers, h.id = id ∧ ∀ g ∈ w.headers, g.id = id → g.index ≤ h.index := by
  obtain ⟨header, hmem, rfl⟩ := hkept
  obtain ⟨h, hfound⟩ := Window.exists_withId? hmem
  exact ⟨h, (Window.withId?_eq_some_iff hl).mp hfound⟩

/-- A call with parameters that fit yields a result, unless what it asks for is not kept. -/
lemma exists_yields_or_missing {view : NodeView} (hs : view.node.Sound) {method : String}
    {kinds : List ParameterKind} {ps : Parameters} (hmethod : (method, kinds) ∈ schema)
    (hfit : ¬ Misfit kinds ps) :
    (∃ result, Yields view method ps result) ∨ Missing view.node method ps := by
  have hword : kinds = [.word] → ∃ n, ps = [.word n] := by
    rintro rfl
    obtain ⟨v, rfl⟩ := eq_singleton_of_not_misfit hfit
    obtain ⟨n, rfl⟩ := not_misfit_singleton_iff.mp hfit
    exact ⟨n, rfl⟩
  have hnone : kinds = [] → ps = [] := by
    rintro rfl
    exact eq_nil_of_not_misfit hfit
  -- One case for each method, in the order of the table.
  simp only [schema, List.mem_cons, Prod.mk.injEq, List.not_mem_nil, or_false] at hmethod
  rcases hmethod with ⟨rfl, hk⟩ | ⟨rfl, hk⟩ | ⟨rfl, hk⟩ | ⟨rfl, hk⟩ | ⟨rfl, hk⟩ | ⟨rfl, hk⟩ |
    ⟨rfl, hk⟩ | ⟨rfl, hk⟩ | ⟨rfl, hk⟩ | ⟨rfl, hk⟩
  · rw [hnone hk]
    exact .inl ⟨_, .protocolVersion⟩
  · rw [hnone hk]
    exact .inl ⟨_, .blockTime⟩
  · rw [hnone hk]
    exact .inl ⟨_, .l1Connected⟩
  · rw [hnone hk]
    exact .inl ⟨_, .l1Status⟩
  · obtain ⟨height, rfl⟩ := hword hk
    by_cases hkept : ∃ hash, (height, hash) ∈ view.node.l1Table.blocks
    · obtain ⟨hash, hmem⟩ := hkept
      exact .inl ⟨_, .l1BlockHash hmem⟩
    · exact .inr (.l1Block fun hash hmem => hkept ⟨hash, hmem⟩)
  · rw [hnone hk]
    exact .inl ⟨_, .clientStatus⟩
  · rw [hnone hk]
    exact .inl ⟨_, .syncStatus⟩
  · obtain ⟨count, rfl⟩ := hword hk
    exact .inl ⟨_, .recentHeaders⟩
  · obtain ⟨index, rfl⟩ := hword hk
    by_cases hkept : ∃ header ∈ view.node.window.headers, header.index = index
    · obtain ⟨header, hmem, rfl⟩ := hkept
      exact .inl ⟨_, .headersAtIndex hmem⟩
    · exact .inr (.header fun header hmem hindex => hkept ⟨header, hmem, hindex⟩)
  · subst hk
    obtain ⟨v, rfl⟩ := eq_singleton_of_not_misfit hfit
    obtain ⟨text, id, rfl, htext⟩ := not_misfit_singleton_iff.mp hfit
    by_cases hkept : ∃ header ∈ view.node.window.headers, header.id = id
    · obtain ⟨header, hmem, hid, hhigh⟩ := exists_highest hs.linked hkept
      rw [← hid] at htext hhigh
      exact .inl ⟨_, .headerWithId htext hmem hhigh⟩
    · exact .inr (.id htext fun header hmem hid => hkept ⟨header, hmem, hid⟩)

end ChainView.Rpc

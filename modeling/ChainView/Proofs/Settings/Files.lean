import ChainView.Settings.Node
import ChainView.Proofs.Net.Addresses
import ChainView.Proofs.Json.Omissions
import ChainView.Proofs.Json.Texts

/-!
# Settings are read back from files, in part or in full

The settings of a node are read back from the object that they are written as, and from whatever is
left of it: a setting that is left out, alone or with the section that it is in, has its default,
and every other one is kept (`settings_are_read_from_any_part`).  The order of the members that are
left makes no difference.

Each section is read from what is left of its members, those of a section inside a section being
read already.  Only what is written for a single setting is looked at one by one.
-/

namespace ChainView

open Json

variable {depth : ℕ} (keep : List String → Bool)

/-! ## The settings that are kept -/

/-- An endpoint with the defaults for what is not kept. -/
def Endpoint.keeping (s : Endpoint) : Endpoint where
  host := if keep ["host"] then s.host else Endpoint.standard.host
  port := if keep ["port"] then s.port else Endpoint.standard.port

/-- Limits with the default for what is not kept. -/
def Limits.keeping (s : Limits) : Limits where
  maxRequestSize :=
    if keep ["max_request_size"] then s.maxRequestSize else Limits.standard.maxRequestSize

/-- Chain settings with the defaults for what is not kept. -/
def ChainSettings.keeping (s : ChainSettings) : ChainSettings where
  protocolVersion :=
    if keep ["protocol_version"] then s.protocolVersion else ChainSettings.standard.protocolVersion
  blockTime := if keep ["block_time_ms"] then s.blockTime else ChainSettings.standard.blockTime
  network := if keep ["network"] then s.network else ChainSettings.standard.network

/-- Retention settings with the defaults for what is not kept. -/
def Retention.keeping (s : Retention) : Retention where
  maxHeaders := if keep ["max_headers"] then s.maxHeaders else Retention.standard.maxHeaders
  maxL1Blocks := if keep ["max_l1_blocks"] then s.maxL1Blocks else Retention.standard.maxL1Blocks

/-- An origin policy with the defaults for what is not kept. -/
def OriginPolicy.keeping (s : OriginPolicy) : OriginPolicy where
  enabled := if keep ["enabled"] then s.enabled else OriginPolicy.standard.enabled
  origins := if keep ["allowed_origins"] then s.origins else OriginPolicy.standard.origins
  methods := if keep ["allowed_methods"] then s.methods else OriginPolicy.standard.methods
  headers := if keep ["allowed_headers"] then s.headers else OriginPolicy.standard.headers
  maxAge := if keep ["max_age"] then s.maxAge else OriginPolicy.standard.maxAge

/-- Gateway settings with the defaults for what is not kept, alone or with its section. -/
def GatewaySettings.keeping (s : GatewaySettings) : GatewaySettings where
  http := if keep ["http"] then s.http.keeping (within keep "http") else .standard
  limits := if keep ["limits"] then s.limits.keeping (within keep "limits") else .standard
  chain := if keep ["chain"] then s.chain.keeping (within keep "chain") else .standard
  retention :=
    if keep ["retention"] then s.retention.keeping (within keep "retention") else .standard
  cors := if keep ["cors"] then s.cors.keeping (within keep "cors") else .standard

/-- Follower settings with the defaults for what is not kept. -/
def FollowerSettings.keeping (s : FollowerSettings) : FollowerSettings where
  enabled := if keep ["enabled"] then s.enabled else FollowerSettings.standard.enabled
  finalityDepth :=
    if keep ["finality_depth"] then s.finalityDepth else FollowerSettings.standard.finalityDepth
  l1Interval := if keep ["l1_interval"] then s.l1Interval else FollowerSettings.standard.l1Interval
  l1BuryDepth :=
    if keep ["l1_bury_depth"] then s.l1BuryDepth else FollowerSettings.standard.l1BuryDepth
  l1StartHeight :=
    if keep ["l1_start_height"] then s.l1StartHeight else FollowerSettings.standard.l1StartHeight

/-- Node settings with the defaults for what is not kept, alone or with its section. -/
def NodeSettings.keeping (s : NodeSettings) : NodeSettings where
  gateway := if keep ["gateway"] then s.gateway.keeping (within keep "gateway") else .standard
  follower :=
    if keep ["dev_follower"] then s.follower.keeping (within keep "dev_follower") else .standard

/-! ## The sections -/

/-- The members of an endpoint may be set in any order. -/
lemma Endpoint.independent_shape : Endpoint.shape.Independent where
  nodup := by decide
  commutes := List.pairwise_pair.mpr (Member.commutes_of_put fun _ _ _ => rfl)

/-- An endpoint is read from what is left of it. -/
lemma Endpoint.reads_keeping (s : Endpoint) :
    ReadsReordered (Endpoint.shape.decoder (depth + 1)) (s.toJson.keeping keep)
      (s.keeping keep) := by
  refine Shape.TakesKept.reads ?_ independent_shape rfl (by simp [shape, mayHave])
  exact .cons rfl rfl (s.host.reads_decoder.reordered nofun) <|
    .cons rfl rfl ((reads_word16 s.port).reordered nofun) .nil

/-- The only member of the limits may be set. -/
lemma Limits.independent_shape : Limits.shape.Independent where
  nodup := by decide
  commutes := List.pairwise_singleton _ _

/-- Limits are read from what is left of them. -/
lemma Limits.reads_keeping (s : Limits) :
    ReadsReordered (Limits.shape.decoder (depth + 1)) (s.toJson.keeping keep)
      (s.keeping keep) := by
  refine Shape.TakesKept.reads ?_ independent_shape rfl (by simp [shape, mayHave])
  exact .cons rfl rfl ((reads_size s.maxRequestSize).reordered nofun) .nil

/-- The members of the chain settings may be set in any order. -/
lemma ChainSettings.independent_shape : ChainSettings.shape.Independent where
  nodup := by decide
  commutes := by
    simp only [shape, List.pairwise_cons, List.forall_mem_cons, List.not_mem_nil,
      IsEmpty.forall_iff, implies_true, List.Pairwise.nil, and_true]
    and_intros <;> exact Member.commutes_of_put fun _ _ _ => rfl

/-- Chain settings are read from what is left of them. -/
lemma ChainSettings.reads_keeping (s : ChainSettings) :
    ReadsReordered (ChainSettings.shape.decoder (depth + 1)) (s.toJson.keeping keep)
      (s.keeping keep) := by
  refine Shape.TakesKept.reads ?_ independent_shape rfl (by simp [shape, mayHave])
  exact .cons rfl rfl ((reads_word64 s.protocolVersion).reordered nofun) <|
    .cons rfl rfl ((reads_word64 s.blockTime).reordered nofun) <|
    .cons rfl rfl ((reads_text s.network).reordered nofun) .nil

/-- The members of the retention settings may be set in any order. -/
lemma Retention.independent_shape : Retention.shape.Independent where
  nodup := by decide
  commutes := List.pairwise_pair.mpr (Member.commutes_of_put fun _ _ _ => rfl)

/-- Retention settings are read from what is left of them. -/
lemma Retention.reads_keeping (s : Retention) :
    ReadsReordered (Retention.shape.decoder (depth + 1)) (s.toJson.keeping keep)
      (s.keeping keep) := by
  refine Shape.TakesKept.reads ?_ independent_shape rfl (by simp [shape, mayHave])
  exact .cons rfl rfl ((reads_size s.maxHeaders).reordered nofun) <|
    .cons rfl rfl ((reads_size s.maxL1Blocks).reordered nofun) .nil

/-- Texts are read from the list that they are written as. -/
lemma OriginPolicy.reads_listJson (ss : List String) :
    Reads (Decoder.list Decoder.text (depth + 1)) (listJson ss) ss := by
  have hread : Reads (Decoder.list Decoder.text (depth + 1)) (listJson ss) (ss.map id) :=
    reads_list (fun s _ => (.string s : (Value.string s).Exact 0)) fun s _ => reads_text s
  rwa [List.map_id] at hread

/-- The members of an origin policy may be set in any order. -/
lemma OriginPolicy.independent_shape : OriginPolicy.shape.Independent where
  nodup := by decide
  commutes := by
    simp only [shape, List.pairwise_cons, List.forall_mem_cons, List.not_mem_nil,
      IsEmpty.forall_iff, implies_true, List.Pairwise.nil, and_true]
    and_intros <;> exact Member.commutes_of_put fun _ _ _ => rfl

/-- An origin policy is read from what is left of it. -/
lemma OriginPolicy.reads_keeping (s : OriginPolicy) :
    ReadsReordered (OriginPolicy.shape.decoder (depth + 2)) (s.toJson.keeping keep)
      (s.keeping keep) := by
  refine Shape.TakesKept.reads ?_ independent_shape rfl (by simp [shape, mayHave])
  exact .cons rfl rfl ((reads_bool s.enabled).reordered nofun) <|
    .cons rfl rfl ((reads_listJson s.origins).reordered nofun) <|
    .cons rfl rfl ((reads_listJson s.methods).reordered nofun) <|
    .cons rfl rfl ((reads_listJson s.headers).reordered nofun) <|
    .cons rfl rfl ((reads_word64 s.maxAge).reordered nofun) .nil

/-- The sections of the gateway settings may be set in any order. -/
lemma GatewaySettings.independent_shape : GatewaySettings.shape.Independent where
  nodup := by decide
  commutes := by
    simp only [shape, List.pairwise_cons, List.forall_mem_cons, List.not_mem_nil,
      IsEmpty.forall_iff, implies_true, List.Pairwise.nil, and_true]
    and_intros <;> exact Member.commutes_of_put fun _ _ _ => rfl

/-- Gateway settings are read from what is left of them. -/
lemma GatewaySettings.reads_keeping (s : GatewaySettings) :
    ReadsReordered (GatewaySettings.shape.decoder (depth + 3)) (s.toJson.keeping keep)
      (s.keeping keep) := by
  refine Shape.TakesKept.reads ?_ independent_shape rfl (by simp [shape, mayHave])
  exact .cons rfl rfl (s.http.reads_keeping _) <|
    .cons rfl rfl (s.limits.reads_keeping _) <|
    .cons rfl rfl (s.chain.reads_keeping _) <|
    .cons rfl rfl (s.retention.reads_keeping _) <|
    .cons rfl rfl (s.cors.reads_keeping _) .nil

/-- The members of the follower settings may be set in any order. -/
lemma FollowerSettings.independent_shape : FollowerSettings.shape.Independent where
  nodup := by decide
  commutes := by
    simp only [shape, List.pairwise_cons, List.forall_mem_cons, List.not_mem_nil,
      IsEmpty.forall_iff, implies_true, List.Pairwise.nil, and_true]
    and_intros <;> exact Member.commutes_of_put fun _ _ _ => rfl

/-- Follower settings are read from what is left of them. -/
lemma FollowerSettings.reads_keeping (s : FollowerSettings) :
    ReadsReordered (FollowerSettings.shape.decoder (depth + 1)) (s.toJson.keeping keep)
      (s.keeping keep) := by
  refine Shape.TakesKept.reads ?_ independent_shape rfl (by simp [shape, mayHave])
  exact .cons rfl rfl ((reads_bool s.enabled).reordered nofun) <|
    .cons rfl rfl ((reads_word64 s.finalityDepth).reordered nofun) <|
    .cons rfl rfl ((reads_word64 s.l1Interval).reordered nofun) <|
    .cons rfl rfl ((reads_word64 s.l1BuryDepth).reordered nofun) <|
    .cons rfl rfl ((reads_word64 s.l1StartHeight).reordered nofun) .nil

/-! ## The whole -/

namespace NodeSettings

/-- The sections of the node settings may be set in any order. -/
lemma independent_shape : NodeSettings.shape.Independent where
  nodup := by decide
  commutes := List.pairwise_pair.mpr (Member.commutes_of_put fun _ _ _ => rfl)

/-- Node settings are read from what is left of them. -/
lemma reads_keeping (s : NodeSettings) :
    ReadsReordered (NodeSettings.shape.decoder (depth + 4)) (s.toJson.keeping keep)
      (s.keeping keep) := by
  refine Shape.TakesKept.reads ?_ independent_shape rfl (by simp [shape, mayHave])
  exact .cons rfl rfl (s.gateway.reads_keeping _) <|
    .cons rfl rfl (s.follower.reads_keeping _) .nil

/-- A file that holds what is written for a value holds the settings that it is read as. -/
lemma ofFile_of_decode {files : Files} {path : String} {v : Value} {s : NodeSettings}
    (hfile : files path = some v.write) (h : decode NodeSettings.shape.decoder v.write = .ok s) :
    ofFile files path = .ok s := by
  obtain ⟨text, htext⟩ := isText_write v
  have hvalid : Text.ofBytes? v.write = some text := by
    rw [htext, Text.ofBytes?_bytesOf]
  simp only [ofFile, hfile, hvalid, h]

/-- The settings of a node are read back from the object that they are written as, and from every
part of it.

Let any members be left out of the object, sections or members of sections.  What is left is read as
the settings with the default for each setting that is left out, alone or with a section that it is
in, and with every other setting as it was.  So it is in whatever order the members that are left
stand, inside the sections too, and a file that holds such a text holds these settings. -/
theorem settings_are_read_from_any_part (s : NodeSettings) :
    decode NodeSettings.shape.decoder s.toJson.write = .ok s ∧
      ∀ keep : List String → Bool,
        decode NodeSettings.shape.decoder (s.toJson.keeping keep).write = .ok (s.keeping keep) ∧
          ∀ w, (s.toJson.keeping keep).Reorders w →
            decode NodeSettings.shape.decoder w.write = .ok (s.keeping keep) ∧
              ∀ files path, files path = some w.write →
                ofFile files path = .ok (s.keeping keep) := by
  have hpart (keep : List String → Bool) (w : Value) (hw : (s.toJson.keeping keep).Reorders w) :
      decode NodeSettings.shape.decoder w.write = .ok (s.keeping keep) :=
    readAll_write (reads_keeping keep s w hw)
  -- if every member is kept, the whole object is left, and with it every setting
  have hall : s.toJson.keeping (fun _ => true) = s.toJson := rfl
  have hsettings : s.keeping (fun _ => true) = s := rfl
  refine ⟨?_, fun keep => ⟨hpart keep _ (.refl _), fun w hw => ⟨hpart keep w hw, ?_⟩⟩⟩
  · have hwhole := hpart (fun _ => true) _ (.refl _)
    rwa [hall, hsettings] at hwhole
  · exact fun files path hfile => ofFile_of_decode hfile (hpart keep w hw)

/-- Of settings with another address, another port and other L1 blocks, a file has the address and
the number of blocks to an L1 block left, the section of the follower in front. -/
theorem settings_are_read_from_any_part_with_two_settings_left :
    let host : IpAddress := .v6 #v[0x2001, 0xDB8, 0, 0, 0, 0, 0, 1]
    let s : NodeSettings :=
      { NodeSettings.standard with
        gateway.http := ⟨host, 80⟩, follower.l1Interval := 9, follower.l1StartHeight := 7 }
    let kept := [["gateway"], ["gateway", "http"], ["gateway", "http", "host"], ["dev_follower"],
      ["dev_follower", "l1_interval"]]
    let w : Value := .object [
      ("dev_follower", .object [("l1_interval", .word 9)]),
      ("gateway", .object [("http", .object [("host", host.toJson)])])]
    (s.toJson.keeping fun path => path ∈ kept).Reorders w ∧
      ofFile (fun _ => some w.write) "node.json" =
        .ok { NodeSettings.standard with gateway.http.host := host, follower.l1Interval := 9 } := by
  intro host s kept w
  have hreorders : (s.toJson.keeping fun path => path ∈ kept).Reorders w :=
    .object (.refl _) (.swap _ _ _)
  obtain ⟨-, hpart⟩ := settings_are_read_from_any_part s
  exact ⟨hreorders, ((hpart _).2 w hreorders).2 _ _ rfl⟩

/-- If nothing is left, every setting has its default. -/
example (s : NodeSettings) : s.keeping (fun _ => false) = .standard := rfl

end NodeSettings

end ChainView

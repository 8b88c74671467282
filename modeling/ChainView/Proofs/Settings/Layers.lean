import Mathlib.Tactic.Common
import Mathlib.Data.List.TakeWhile
import ChainView.Node.Instance

/-!
# The layers of settings

Settings are loaded by a procedure that stops at the first thing that is wrong.  Here the same is
said setting by setting.  `StartsFrom` says which settings the variables are put into, `Layered`
what each setting is once they are, `InOrder` what settings have to be, and `FirstFault` lists the
ways to fail, each with what has gone well before it.  Loading succeeds with the settings that the
first three describe, and only with those; it fails with the faults that the last one lists.
-/

namespace ChainView

/-! ## Settings in order -/

/-- A text trims to nothing exactly if all of its characters are blank. -/
lemma Text.trimChars_eq_nil_iff {cs : List Char} :
    trimChars cs = [] ↔ ∀ c ∈ cs, isBlank c = true := by
  refine ⟨?_, trimChars_of_all_blank⟩
  intro h c hc
  rw [trimChars, List.reverse_eq_nil_iff, List.dropWhile_eq_nil_iff] at h
  rw [← List.takeWhile_append_dropWhile (l := cs) (p := isBlank), List.mem_append] at hc
  rcases hc with hfront | hrest
  · exact List.mem_takeWhile_imp hfront
  · exact h c (List.mem_reverse.mpr hrest)

/-- The settings of a gateway leave it requests, blocks, a network and history. -/
structure GatewaySettings.InOrder (s : GatewaySettings) : Prop where
  /-- Some request is small enough. -/
  maxRequestSize : s.limits.maxRequestSize ≠ 0
  /-- There is time between blocks. -/
  blockTime : s.chain.blockTime ≠ 0
  /-- The name of the network is not blank. -/
  network : ∃ c ∈ s.chain.network.toList, Text.isBlank c = false
  /-- Headers are kept. -/
  maxHeaders : s.retention.maxHeaders ≠ 0
  /-- L1 blocks are kept. -/
  maxL1Blocks : s.retention.maxL1Blocks ≠ 0

/-- The settings of a node are in order. -/
structure NodeSettings.InOrder (s : NodeSettings) : Prop where
  /-- Those of the gateway are. -/
  gateway : s.gateway.InOrder
  /-- There are L1 blocks. -/
  l1Interval : s.follower.l1Interval ≠ 0
  /-- The finalized block is kept. -/
  finalityDepth : s.follower.finalityDepth < s.gateway.retention.maxHeaders

/-- A gateway refuses exactly the settings that are not in order. -/
lemma GatewaySettings.fault?_eq_none_iff {s : GatewaySettings} : s.fault? = none ↔ s.InOrder := by
  have hnetwork : (Text.trimChars s.chain.network.toList).isEmpty = true ↔
      ¬ ∃ c ∈ s.chain.network.toList, Text.isBlank c = false := by
    rw [List.isEmpty_iff, Text.trimChars_eq_nil_iff]
    simp
  unfold fault?
  constructor
  · intro h
    split_ifs at h with hsize htime hname hheaders hblocks
    exact ⟨hsize, htime, not_not.mp (hnetwork.not.mp hname), hheaders, hblocks⟩
  · intro h
    rw [if_neg h.maxRequestSize, if_neg h.blockTime,
      if_neg (hnetwork.not.mpr (not_not.mpr h.network)), if_neg h.maxHeaders, if_neg h.maxL1Blocks]

/-- The checks of a node refuse exactly the settings that are not in order. -/
lemma NodeSettings.fault?_eq_none_iff_inOrder {s : NodeSettings} : s.fault? = none ↔ s.InOrder := by
  unfold fault?
  constructor
  · intro h
    split at h
    · cases h
    · rename_i hgateway
      rw [Option.map_eq_none_iff, FollowerSettings.fault?_eq_none_iff] at h
      exact ⟨GatewaySettings.fault?_eq_none_iff.mp hgateway, h.1, h.2⟩
  · intro h
    have hfollower := FollowerSettings.fault?_eq_none_iff.mpr ⟨h.l1Interval, h.finalityDepth⟩
    rw [GatewaySettings.fault?_eq_none_iff.mpr h.gateway]
    simp [hfollower]

/-! ## The variables -/

namespace NodeSettings

/-- A setting gets its value from a variable: the one that is read from the variable, less the
blanks around it, or the old one if the variable is not set. -/
def Gives {α : Type} (env : Environment) (name : String) (read : String → Option α) (old new : α) :
    Prop :=
  match env name with
  | none => new = old
  | some value => read (Text.trim value) = some new

/-- The settings `s` are those of `base` with the variables put in. -/
structure Layered (env : Environment) (base s : NodeSettings) : Prop where
  /-- The address to listen on. -/
  host : Gives env "STRATA_RPC_HOST" IpAddress.ofText? base.gateway.http.host s.gateway.http.host
  /-- The port. -/
  port : Gives env "STRATA_RPC_PORT" Text.word16? base.gateway.http.port s.gateway.http.port
  /-- The time between blocks. -/
  blockTime : Gives env "STRATA_BLOCK_TIME_MS" Text.word64? base.gateway.chain.blockTime
    s.gateway.chain.blockTime
  /-- The version of the protocol. -/
  protocolVersion : Gives env "STRATA_PROTOCOL_VERSION" Text.word64?
    base.gateway.chain.protocolVersion s.gateway.chain.protocolVersion
  /-- The name of the network, which any text is. -/
  network : Gives env "STRATA_NETWORK" some base.gateway.chain.network s.gateway.chain.network
  /-- The number of headers to keep. -/
  maxHeaders : Gives env "STRATA_MAX_HEADERS" Text.word64? base.gateway.retention.maxHeaders
    s.gateway.retention.maxHeaders
  /-- The number of L1 blocks to keep. -/
  maxL1Blocks : Gives env "STRATA_MAX_L1_BLOCKS" Text.word64? base.gateway.retention.maxL1Blocks
    s.gateway.retention.maxL1Blocks
  /-- The size that requests may have. -/
  maxRequestSize : Gives env "STRATA_MAX_REQUEST_SIZE" Text.word64?
    base.gateway.limits.maxRequestSize s.gateway.limits.maxRequestSize
  /-- Whether the follower runs, which any text says. -/
  enabled : s.follower.enabled =
    ((env "STRATA_DEV_FOLLOWER").map Text.isOn).getD base.follower.enabled
  /-- No variable changes the origins. -/
  cors : s.gateway.cors = base.gateway.cors
  /-- Nor the depth of finality. -/
  finalityDepth : s.follower.finalityDepth = base.follower.finalityDepth
  /-- Nor the blocks to one L1 block. -/
  l1Interval : s.follower.l1Interval = base.follower.l1Interval
  /-- Nor the depth of L1 blocks that count as buried. -/
  l1BuryDepth : s.follower.l1BuryDepth = base.follower.l1BuryDepth
  /-- Nor the height of the first L1 block. -/
  l1StartHeight : s.follower.l1StartHeight = base.follower.l1StartHeight

/-- The variables whose values are read, in their order, each with whether a text is a value of
it. -/
def readVariables : List (String × (String → Bool)) := [
  ("STRATA_RPC_HOST", fun text => (IpAddress.ofText? text).isSome),
  ("STRATA_RPC_PORT", fun text => (Text.word16? text).isSome),
  ("STRATA_BLOCK_TIME_MS", fun text => (Text.word64? text).isSome),
  ("STRATA_PROTOCOL_VERSION", fun text => (Text.word64? text).isSome),
  ("STRATA_NETWORK", fun _ => true),
  ("STRATA_MAX_HEADERS", fun text => (Text.word64? text).isSome),
  ("STRATA_MAX_L1_BLOCKS", fun text => (Text.word64? text).isSome),
  ("STRATA_MAX_REQUEST_SIZE", fun text => (Text.word64? text).isSome)]

/-- All variables that settings depend on. -/
def consulted : List String :=
  "STRATA_CONFIG" :: "STRATA_DEV_FOLLOWER" :: readVariables.map Prod.fst

/-- A variable is not set, or to a value of it. -/
def Readable (env : Environment) (v : String × (String → Bool)) : Prop :=
  ∀ value, env v.1 = some value → v.2 (Text.trim value) = true

/-- The first of some variables that is set to no value of it, with what it is set to. -/
inductive FirstUnreadable (env : Environment) :
    List (String × (String → Bool)) → String → String → Prop
  /-- It is the first one. -/
  | here {v : String × (String → Bool)} {vs : List (String × (String → Bool))} {value : String}
      (hset : env v.1 = some value) (hbad : v.2 (Text.trim value) = false) :
      FirstUnreadable env (v :: vs) v.1 value
  /-- It comes behind one that is fine. -/
  | behind {v : String × (String → Bool)} {vs : List (String × (String → Bool))}
      {name value : String} (hfine : Readable env v) (h : FirstUnreadable env vs name value) :
      FirstUnreadable env (v :: vs) name value

/-- A setting gets one value only. -/
lemma Gives.unique {α : Type} {env : Environment} {name : String} {read : String → Option α}
    {old a b : α} (ha : Gives env name read old a) (hb : Gives env name read old b) : a = b := by
  unfold Gives at ha hb
  cases hset : env name with
  | none =>
    simp only [hset] at ha hb
    exact ha.trans hb.symm
  | some value =>
    simp only [hset] at ha hb
    exact Option.some.inj (ha.symm.trans hb)

/-- A variable that gives a setting its value can be read. -/
lemma Gives.readable {α : Type} {env : Environment} {name : String} {read : String → Option α}
    {old new : α} (h : Gives env name read old new) :
    Readable env (name, fun text => (read text).isSome) := by
  intro value hset
  unfold Gives at h
  simp only [hset] at h
  simp only [h, Option.isSome_some]

/-- Settings are layered in one way only. -/
lemma Layered.unique {env : Environment} {base s t : NodeSettings} (hs : Layered env base s)
    (ht : Layered env base t) : s = t := by
  obtain ⟨⟨⟨_, _⟩, ⟨_⟩, ⟨_, _, _⟩, ⟨_, _⟩, _⟩, ⟨_, _, _, _, _⟩⟩ := s
  obtain ⟨⟨⟨_, _⟩, ⟨_⟩, ⟨_, _, _⟩, ⟨_, _⟩, _⟩, ⟨_, _, _, _, _⟩⟩ := t
  simp only [NodeSettings.mk.injEq, GatewaySettings.mk.injEq, Endpoint.mk.injEq, Limits.mk.injEq,
    ChainSettings.mk.injEq, Retention.mk.injEq, FollowerSettings.mk.injEq]
  exact ⟨⟨⟨hs.host.unique ht.host, hs.port.unique ht.port⟩,
    hs.maxRequestSize.unique ht.maxRequestSize,
    ⟨hs.protocolVersion.unique ht.protocolVersion, hs.blockTime.unique ht.blockTime,
      hs.network.unique ht.network⟩,
    ⟨hs.maxHeaders.unique ht.maxHeaders, hs.maxL1Blocks.unique ht.maxL1Blocks⟩,
    hs.cors.trans ht.cors.symm⟩,
    hs.enabled.trans ht.enabled.symm, hs.finalityDepth.trans ht.finalityDepth.symm,
    hs.l1Interval.trans ht.l1Interval.symm, hs.l1BuryDepth.trans ht.l1BuryDepth.symm,
    hs.l1StartHeight.trans ht.l1StartHeight.symm⟩

/-- If settings are layered, all variables can be read. -/
lemma Layered.readable {env : Environment} {base s : NodeSettings} (h : Layered env base s) :
    ∀ v ∈ readVariables, Readable env v := by
  simp only [readVariables, List.forall_mem_cons]
  exact ⟨h.host.readable, h.port.readable, h.blockTime.readable, h.protocolVersion.readable,
    h.network.readable, h.maxHeaders.readable, h.maxL1Blocks.readable, h.maxRequestSize.readable,
    List.forall_mem_nil _⟩

/-- A first variable that cannot be read is one. -/
lemma FirstUnreadable.exists_not_readable {env : Environment}
    {vs : List (String × (String → Bool))} {name value : String}
    (h : FirstUnreadable env vs name value) : ∃ v ∈ vs, ¬ Readable env v := by
  induction h with
  | @here v vs value hset hbad =>
    refine ⟨v, List.mem_cons_self, fun hfine => ?_⟩
    rw [hfine value hset] at hbad
    cases hbad
  | behind _ _ ih =>
    obtain ⟨v, hv, hbad⟩ := ih
    exact ⟨v, List.mem_cons_of_mem _ hv, hbad⟩

end NodeSettings

/-! ## The overrides -/

namespace Override

open NodeSettings (Gives Readable FirstUnreadable readVariables)

variable {env : Environment} {s t : NodeSettings}

/-- An override reads a variable, and whether it can depends on the text alone. -/
structure ReadsAs (o : Override) (v : String × (String → Bool)) : Prop where
  /-- The name of the variable. -/
  name_eq : o.name = v.1
  /-- The texts that are values of it. -/
  isSome_apply : ∀ text s, (o.apply text s).isSome = v.2 text

/-- An override of a single setting reads its variable. -/
lemma readsAs_of {α : Type} (name : String) (read : String → Option α)
    (set : NodeSettings → α → NodeSettings) :
    (of name read set).ReadsAs (name, fun text => (read text).isSome) where
  name_eq := rfl
  isSome_apply _ _ := Option.isSome_map

/-- The overrides read the variables in their order. -/
lemma forall₂_readsAs : List.Forall₂ ReadsAs all readVariables := by
  exact .cons (readsAs_of _ _ _) <| .cons (readsAs_of _ _ _) <| .cons (readsAs_of _ _ _) <|
    .cons (readsAs_of _ _ _) <| .cons (readsAs_of _ _ _) <| .cons (readsAs_of _ _ _) <|
    .cons (readsAs_of _ _ _) <| .cons (readsAs_of _ _ _) .nil

/-- An override fails exactly if its variable is set to no value of it. -/
lemma ReadsAs.run_eq_error_iff {o : Override} {v : String × (String → Bool)} (h : o.ReadsAs v)
    {fault : SettingsFault} :
    o.run env s = .error fault ↔
      ∃ value, env v.1 = some value ∧ v.2 (Text.trim value) = false ∧
        fault = .badVariable v.1 value := by
  unfold run
  rw [h.name_eq]
  cases env v.1 with
  | none => simp
  | some value =>
    have hreads := h.isSome_apply (Text.trim value) s
    cases happly : o.apply (Text.trim value) s with
    | none =>
      rw [happly, Option.isSome_none] at hreads
      simp only [happly]
      constructor
      · rintro ⟨⟩
        exact ⟨value, rfl, hreads.symm, rfl⟩
      · rintro ⟨_, ⟨⟩, -, rfl⟩
        rfl
    | some t =>
      simp only [happly]
      refine iff_of_false nofun ?_
      rintro ⟨_, ⟨⟩, hbad, -⟩
      rw [happly, hbad] at hreads
      cases hreads

/-- An override whose variable can be read is made, and only such a one. -/
lemma ReadsAs.readable_iff {o : Override} {v : String × (String → Bool)} (h : o.ReadsAs v)
    (s : NodeSettings) : Readable env v ↔ ∃ t, o.run env s = .ok t := by
  constructor
  · intro hfine
    cases hrun : o.run env s with
    | ok t => exact ⟨t, rfl⟩
    | error fault =>
      obtain ⟨value, hset, hbad, -⟩ := h.run_eq_error_iff.mp hrun
      rw [hfine value hset] at hbad
      cases hbad
  · rintro ⟨t, ht⟩ value hset
    by_contra hbad
    have herror : o.run env s = .error (.badVariable v.1 value) :=
      h.run_eq_error_iff.mpr ⟨value, hset, Bool.eq_false_iff.mpr hbad, rfl⟩
    rw [ht] at herror
    cases herror

/-- Overrides fail at the first variable that cannot be read. -/
lemma runAll_eq_error_iff {os : List Override} {vs : List (String × (String → Bool))}
    (h : List.Forall₂ ReadsAs os vs) {fault : SettingsFault} :
    runAll env os s = .error fault ↔
      ∃ name value, FirstUnreadable env vs name value ∧ fault = .badVariable name value := by
  induction h generalizing s with
  | nil =>
    refine iff_of_false nofun ?_
    rintro ⟨name, value, hfirst, -⟩
    cases hfirst
  | @cons o v os vs hreads _ ih =>
    simp only [runAll]
    cases hrun : o.run env s with
    | error found =>
      obtain ⟨value, hset, hbad, rfl⟩ := hreads.run_eq_error_iff.mp hrun
      constructor
      · rintro ⟨⟩
        exact ⟨v.1, value, .here hset hbad, rfl⟩
      · rintro ⟨name, other, hfirst, rfl⟩
        cases hfirst with
        | here hset' _ => rw [Option.some.inj (hset.symm.trans hset')]
        | behind hfine _ =>
          rw [hfine value hset] at hbad
          cases hbad
    | ok m =>
      have hfine : Readable env v := (hreads.readable_iff s).mpr ⟨m, hrun⟩
      rw [ih]
      constructor
      · rintro ⟨name, value, hfirst, rfl⟩
        exact ⟨name, value, .behind hfine hfirst, rfl⟩
      · rintro ⟨name, value, hfirst, rfl⟩
        cases hfirst with
        | here hset hbad =>
          rw [hfine value hset] at hbad
          cases hbad
        | behind _ hrest => exact ⟨name, value, hrest, rfl⟩

/-- The first of several overrides, one of a single setting, gives this setting its value.  The
others are made after it. -/
lemma exists_gives_of_runAll {α : Type} {name : String} {read : String → Option α}
    {set : NodeSettings → α → NodeSettings} {rest : List Override} (get : NodeSettings → α)
    (hget : ∀ s, set s (get s) = s) (h : runAll env (of name read set :: rest) s = .ok t) :
    ∃ v, Gives env name read (get s) v ∧ runAll env rest (set s v) = .ok t := by
  simp only [runAll, run, of] at h
  unfold Gives
  cases hset : env name with
  | none =>
    simp only [hset] at h
    exact ⟨get s, rfl, (hget s).symm ▸ h⟩
  | some value =>
    simp only [hset] at h
    cases hread : read (Text.trim value) with
    | none => simp [hread] at h
    | some v =>
      simp only [hread, Option.map_some] at h
      exact ⟨v, hread, h⟩

/-- What overrides do depends on the variables that they read. -/
lemma runAll_congr {other : Environment} {os : List Override}
    (h : ∀ o ∈ os, other o.name = env o.name) : runAll other os s = runAll env os s := by
  induction os generalizing s with
  | nil => rfl
  | cons o rest ih =>
    rw [List.forall_mem_cons] at h
    have hrun : o.run other s = o.run env s := by
      unfold run
      rw [h.1]
    simp only [runAll, hrun]
    cases o.run env s with
    | ok m => exact ih h.2
    | error fault => rfl

end Override

namespace NodeSettings

/-- The switch of the follower is one of its settings. -/
lemma switchFollower_eq (env : Environment) (s : NodeSettings) :
    switchFollower env s =
      { s with follower.enabled :=
          ((env "STRATA_DEV_FOLLOWER").map Text.isOn).getD s.follower.enabled } := by
  unfold switchFollower followerVariable
  cases env "STRATA_DEV_FOLLOWER" with
  | none => rfl
  | some value => rw [Option.map_some, Option.getD_some]

open Override in
/-- The settings that the overrides make, with the switch put in, are layered. -/
lemma layered_of_runAll {env : Environment} {base m : NodeSettings}
    (h : runAll env all base = .ok m) : Layered env base (switchFollower env m) := by
  rw [switchFollower_eq]
  obtain ⟨⟨⟨host, port⟩, ⟨size⟩, ⟨version, time, network⟩, ⟨headers, blocks⟩, cors⟩, follower⟩ :=
    base
  obtain ⟨host', hhost, h⟩ := exists_gives_of_runAll (·.gateway.http.host) (fun _ => rfl) h
  dsimp only at h
  obtain ⟨port', hport, h⟩ := exists_gives_of_runAll (·.gateway.http.port) (fun _ => rfl) h
  dsimp only at h
  obtain ⟨time', htime, h⟩ := exists_gives_of_runAll (·.gateway.chain.blockTime) (fun _ => rfl) h
  dsimp only at h
  obtain ⟨version', hversion, h⟩ :=
    exists_gives_of_runAll (·.gateway.chain.protocolVersion) (fun _ => rfl) h
  dsimp only at h
  obtain ⟨network', hnetwork, h⟩ :=
    exists_gives_of_runAll (·.gateway.chain.network) (fun _ => rfl) h
  dsimp only at h
  obtain ⟨headers', hheaders, h⟩ :=
    exists_gives_of_runAll (·.gateway.retention.maxHeaders) (fun _ => rfl) h
  dsimp only at h
  obtain ⟨blocks', hblocks, h⟩ :=
    exists_gives_of_runAll (·.gateway.retention.maxL1Blocks) (fun _ => rfl) h
  dsimp only at h
  obtain ⟨size', hsize, h⟩ :=
    exists_gives_of_runAll (·.gateway.limits.maxRequestSize) (fun _ => rfl) h
  cases h
  exact ⟨hhost, hport, htime, hversion, hnetwork, hheaders, hblocks, hsize, rfl, rfl, rfl, rfl, rfl,
    rfl⟩

open Override in
/-- If all variables can be read, all overrides are made. -/
lemma exists_runAll_of_readable {env : Environment} (h : ∀ v ∈ readVariables, Readable env v)
    (base : NodeSettings) : ∃ m, runAll env all base = .ok m := by
  cases hrun : runAll env all base with
  | ok m => exact ⟨m, rfl⟩
  | error fault =>
    obtain ⟨name, value, hfirst, -⟩ := (runAll_eq_error_iff forall₂_readsAs).mp hrun
    obtain ⟨v, hv, hbad⟩ := hfirst.exists_not_readable
    exact absurd (h v hv) hbad

open Override in
/-- Settings are layered exactly if they are what the overrides and the switch make. -/
lemma layered_iff {env : Environment} {base s : NodeSettings} :
    Layered env base s ↔ ∃ m, runAll env all base = .ok m ∧ switchFollower env m = s := by
  constructor
  · intro h
    obtain ⟨m, hrun⟩ := exists_runAll_of_readable h.readable base
    exact ⟨m, hrun, (layered_of_runAll hrun).unique h⟩
  · rintro ⟨m, hrun, rfl⟩
    exact layered_of_runAll hrun

/-- Any settings can be layered over exactly if all variables can be read. -/
lemma exists_layered_iff {env : Environment} {base : NodeSettings} :
    (∃ s, Layered env base s) ↔ ∀ v ∈ readVariables, Readable env v := by
  constructor
  · rintro ⟨s, h⟩
    exact h.readable
  · intro h
    obtain ⟨m, hrun⟩ := exists_runAll_of_readable h base
    exact ⟨_, layered_of_runAll hrun⟩

/-! ## The file -/

/-- The settings that the variables are put into: the defaults if no file is named, and otherwise
those that the file holds. -/
inductive StartsFrom (env : Environment) (files : Files) : NodeSettings → Prop
  /-- No file is named. -/
  | standard (h : env "STRATA_CONFIG" = none) : StartsFrom env files .standard
  /-- The file that is named is a text and holds settings. -/
  | file {path text : String} {content : Bytes} {s : NodeSettings}
      (hpath : env "STRATA_CONFIG" = some path) (hcontent : files path = some content)
      (htext : Text.ofBytes? content = some text)
      (hdecode : Json.decode shape.decoder content = .ok s) : StartsFrom env files s

/-- The file that is named gives no settings, for a reason. -/
inductive FileFails (env : Environment) (files : Files) : SettingsFault → Prop
  /-- There is no such file. -/
  | missing {path : String} (hpath : env "STRATA_CONFIG" = some path) (h : files path = none) :
      FileFails env files (.unreadable path .missing)
  /-- It is not a text. -/
  | notText {path : String} {content : Bytes} (hpath : env "STRATA_CONFIG" = some path)
      (hcontent : files path = some content) (h : Text.ofBytes? content = none) :
      FileFails env files (.unreadable path .notText)
  /-- It does not hold settings. -/
  | malformed {path text : String} {content : Bytes} {fault : Json.Fault}
      (hpath : env "STRATA_CONFIG" = some path) (hcontent : files path = some content)
      (htext : Text.ofBytes? content = some text)
      (h : Json.decode shape.decoder content = .error fault) :
      FileFails env files (.malformed path fault.cause)

/-- The settings before the variables are those to start from. -/
lemma base_eq_ok_iff {env : Environment} {files : Files} {s : NodeSettings} :
    base env files = .ok s ↔ StartsFrom env files s := by
  unfold base fileVariable
  constructor
  · intro h
    split at h
    · rename_i hpath
      cases h
      exact .standard hpath
    · rename_i path hpath
      unfold ofFile at h
      split at h
      · cases h
      · rename_i content hcontent
        split at h
        · cases h
        · rename_i text htext
          split at h
          · rename_i hdecode
            cases h
            exact .file hpath hcontent htext hdecode
          · cases h
  · rintro (hpath | ⟨hpath, hcontent, htext, hdecode⟩)
    · simp only [hpath]
    · simp only [hpath, ofFile, hcontent, htext, hdecode]

/-- There are none exactly if the file fails. -/
lemma base_eq_error_iff {env : Environment} {files : Files} {fault : SettingsFault} :
    base env files = .error fault ↔ FileFails env files fault := by
  unfold base fileVariable
  constructor
  · intro h
    split at h
    · cases h
    · rename_i path hpath
      unfold ofFile at h
      split at h
      · rename_i hcontent
        cases h
        exact .missing hpath hcontent
      · rename_i content hcontent
        split at h
        · rename_i htext
          cases h
          exact .notText hpath hcontent htext
        · rename_i text htext
          split at h
          · cases h
          · rename_i hdecode
            cases h
            exact .malformed hpath hcontent htext hdecode
  · rintro (⟨hpath, hcontent⟩ | ⟨hpath, hcontent, htext⟩ | ⟨hpath, hcontent, htext, hdecode⟩)
    · simp only [hpath, ofFile, hcontent]
    · simp only [hpath, ofFile, hcontent, htext]
    · simp only [hpath, ofFile, hcontent, htext, hdecode]

/-! ## Loading -/

/-- What loading fails with.  Each fault stands with what has gone well before it. -/
inductive FirstFault (env : Environment) (files : Files) : SettingsFault → Prop
  /-- The file fails. -/
  | file {fault : SettingsFault} (h : FileFails env files fault) : FirstFault env files fault
  /-- A variable cannot be read, and those before it can. -/
  | badVariable {base : NodeSettings} {name value : String} (hbase : StartsFrom env files base)
      (h : FirstUnreadable env readVariables name value) :
      FirstFault env files (.badVariable name value)
  /-- The gateway refuses its settings. -/
  | gateway {base s : NodeSettings} {fault : GatewayFault} (hbase : StartsFrom env files base)
      (hlayered : Layered env base s) (h : s.gateway.fault? = some fault) :
      FirstFault env files (.gateway fault)
  /-- The settings of the follower are refused, and those of the gateway are in order. -/
  | follower {base s : NodeSettings} {fault : FollowerFault} (hbase : StartsFrom env files base)
      (hlayered : Layered env base s) (hgateway : s.gateway.InOrder)
      (h : s.follower.fault? s.gateway.retention.maxHeaders = some fault) :
      FirstFault env files (.follower fault)

/-- The fault of the settings of a node is that of the gateway, and else that of the follower. -/
lemma fault?_eq_some_iff {s : NodeSettings} {fault : SettingsFault} :
    s.fault? = some fault ↔
      (∃ f, s.gateway.fault? = some f ∧ fault = .gateway f) ∨
        ∃ f, s.gateway.InOrder ∧ s.follower.fault? s.gateway.retention.maxHeaders = some f ∧
          fault = .follower f := by
  unfold fault?
  rw [← GatewaySettings.fault?_eq_none_iff]
  cases s.gateway.fault? with
  | some f => simp [eq_comm]
  | none => cases s.follower.fault? s.gateway.retention.maxHeaders <;> simp [eq_comm]

section Load

variable {env : Environment} {files : Files}

/-- A file that fails ends loading. -/
lemma load_of_fileFails {fault : SettingsFault} (h : FileFails env files fault) :
    load env files = .error fault := by
  unfold load
  rw [base_eq_error_iff.mpr h]

/-- So does the first variable that cannot be read. -/
lemma load_of_firstUnreadable {base : NodeSettings} {name value : String}
    (hbase : StartsFrom env files base) (h : FirstUnreadable env readVariables name value) :
    load env files = .error (.badVariable name value) := by
  have hrun : Override.runAll env Override.all base = .error (.badVariable name value) :=
    (Override.runAll_eq_error_iff Override.forall₂_readsAs).mpr ⟨name, value, h, rfl⟩
  simp only [load, base_eq_ok_iff.mpr hbase, hrun]

/-- Settings that are layered are loaded unless they are at fault. -/
lemma load_of_layered {base s : NodeSettings} (hbase : StartsFrom env files base)
    (hlayered : Layered env base s) :
    load env files =
      match s.fault? with
      | some fault => .error fault
      | none => .ok s := by
  obtain ⟨m, hrun, rfl⟩ := layered_iff.mp hlayered
  cases hfault : (switchFollower env m).fault? <;>
    simp only [load, base_eq_ok_iff.mpr hbase, hrun, hfault]

/-- One of these three things happens. -/
lemma fileFails_or_firstUnreadable_or_layered (env : Environment) (files : Files) :
    (∃ fault, FileFails env files fault) ∨
      ∃ base, StartsFrom env files base ∧
        ((∃ name value, FirstUnreadable env readVariables name value) ∨
          ∃ s, Layered env base s) := by
  cases hbase : NodeSettings.base env files with
  | error fault => exact .inl ⟨fault, base_eq_error_iff.mp hbase⟩
  | ok b =>
    refine .inr ⟨b, base_eq_ok_iff.mp hbase, ?_⟩
    cases hrun : Override.runAll env Override.all b with
    | error fault =>
      obtain ⟨name, value, hfirst, -⟩ :=
        (Override.runAll_eq_error_iff Override.forall₂_readsAs).mp hrun
      exact .inl ⟨name, value, hfirst⟩
    | ok m => exact .inr ⟨_, layered_of_runAll hrun⟩

/-- Loading succeeds with the settings that are layered over those to start from and in order. -/
lemma load_eq_ok_iff {s : NodeSettings} :
    load env files = .ok s ↔
      ∃ base, StartsFrom env files base ∧ Layered env base s ∧ s.InOrder := by
  constructor
  · intro hload
    obtain ⟨fault, hfile⟩ | ⟨base, hbase, ⟨name, value, hfirst⟩ | ⟨t, hlayered⟩⟩ :=
      fileFails_or_firstUnreadable_or_layered env files
    · rw [load_of_fileFails hfile] at hload
      cases hload
    · rw [load_of_firstUnreadable hbase hfirst] at hload
      cases hload
    · rw [load_of_layered hbase hlayered] at hload
      cases hfault : t.fault? with
      | some fault => simp [hfault] at hload
      | none =>
        obtain rfl : t = s := by simpa [hfault] using hload
        exact ⟨base, hbase, hlayered, fault?_eq_none_iff_inOrder.mp hfault⟩
  · rintro ⟨base, hbase, hlayered, horder⟩
    rw [load_of_layered hbase hlayered, fault?_eq_none_iff_inOrder.mpr horder]

/-- Loading fails with the first fault. -/
lemma load_eq_error_iff {fault : SettingsFault} :
    load env files = .error fault ↔ FirstFault env files fault := by
  constructor
  · intro hload
    obtain ⟨found, hfile⟩ | ⟨base, hbase, ⟨name, value, hfirst⟩ | ⟨s, hlayered⟩⟩ :=
      fileFails_or_firstUnreadable_or_layered env files
    · rw [load_of_fileFails hfile] at hload
      cases hload
      exact .file hfile
    · rw [load_of_firstUnreadable hbase hfirst] at hload
      cases hload
      exact .badVariable hbase hfirst
    · rw [load_of_layered hbase hlayered] at hload
      cases hfault : s.fault? with
      | none => simp [hfault] at hload
      | some found =>
        obtain rfl : found = fault := by simpa [hfault] using hload
        obtain ⟨f, hgateway, rfl⟩ | ⟨f, hgateway, hfollower, rfl⟩ := fault?_eq_some_iff.mp hfault
        · exact .gateway hbase hlayered hgateway
        · exact .follower hbase hlayered hgateway hfollower
  · intro hfirst
    cases hfirst with
    | file hfile => exact load_of_fileFails hfile
    | badVariable hbase hunreadable => exact load_of_firstUnreadable hbase hunreadable
    | gateway hbase hlayered hgateway =>
      rw [load_of_layered hbase hlayered, fault?_eq_some_iff.mpr (.inl ⟨_, hgateway, rfl⟩)]
    | follower hbase hlayered hgateway hfollower =>
      rw [load_of_layered hbase hlayered,
        fault?_eq_some_iff.mpr (.inr ⟨_, hgateway, hfollower, rfl⟩)]

/-- Loading depends on ten variables, and on the file that one of them names. -/
lemma load_congr {other : Environment} {others : Files}
    (henv : ∀ name ∈ consulted, other name = env name)
    (hfiles : ∀ path, env "STRATA_CONFIG" = some path → others path = files path) :
    load other others = load env files := by
  have hbase : base other others = base env files := by
    have hpath : other "STRATA_CONFIG" = env "STRATA_CONFIG" := henv _ List.mem_cons_self
    unfold base fileVariable
    rw [hpath]
    cases hset : env "STRATA_CONFIG" with
    | none => rfl
    | some path => simp only [ofFile, hfiles path hset]
  have hrun : ∀ s, Override.runAll other Override.all s = Override.runAll env Override.all s := by
    intro s
    refine Override.runAll_congr fun o ho => henv _ ?_
    refine List.mem_cons_of_mem _ (List.mem_cons_of_mem _ ?_)
    exact List.mem_map_of_mem (f := Override.name) ho
  have hswitch : ∀ s, switchFollower other s = switchFollower env s := by
    intro s
    unfold switchFollower followerVariable
    rw [henv _ (List.mem_cons_of_mem _ List.mem_cons_self)]
  unfold load
  simp only [hbase, hrun, hswitch]

end Load

/-- The layers of settings are exact.

Some variables are wrong whatever they are put into, or none is, and then there are settings that
are layered over any others.  Loading succeeds with settings exactly if they are layered over those
to start from and in order; it fails with a fault exactly if this is the first one.  A node and its
gateway can be made of settings that have been loaded.  No variable matters but the ten, and no
file but the one that is named. -/
theorem load_is_layered (env : Environment) (files : Files) :
    (∀ base, (∃ s, Layered env base s) ↔ ∀ v ∈ readVariables, Readable env v) ∧
    (∀ s, load env files = .ok s ↔
      ∃ base, StartsFrom env files base ∧ Layered env base s ∧ s.InOrder) ∧
    (∀ fault, load env files = .error fault ↔ FirstFault env files fault) ∧
    (∀ s, load env files = .ok s →
      ∃ i, NodeInstance.create s = .ok i ∧ i.settings = s ∧
        Gateway.create s.gateway = .ok i.gateway) ∧
    ∀ (other : Environment) (others : Files),
      (∀ name ∈ consulted, other name = env name) →
      (∀ path, env "STRATA_CONFIG" = some path → others path = files path) →
      load other others = load env files := by
  refine ⟨fun _ => exists_layered_iff, fun _ => load_eq_ok_iff, fun _ => load_eq_error_iff, ?_,
    fun _ _ henv hfiles => load_congr henv hfiles⟩
  intro s hload
  have hnone : s.fault? = none := fault?_of_load hload
  have hgateway : s.gateway.fault? = none :=
    GatewaySettings.fault?_eq_none_iff.mpr (fault?_eq_none_iff_inOrder.mp hnone).gateway
  refine ⟨⟨s, .create s.gateway.retention s.gateway.chain.network, ⟨s.gateway, false, false⟩, none⟩,
    ?_, rfl, ?_⟩
  · simp only [NodeInstance.create, hnone]
  · simp only [Gateway.create, hgateway]

/-- A variable over a file over the defaults.  Without the variable the file could be loaded just as
well, but not with fewer than nine headers to keep. -/
example : (load
      (fun name => if name = "STRATA_CONFIG" then some "node.json"
        else if name = "STRATA_MAX_HEADERS" then some " 9 " else none)
      (fun _ => some (Text.bytesOf "[[],[true,8]]"))).toOption =
    some ⟨{ GatewaySettings.standard with retention.maxHeaders := 9 },
      { FollowerSettings.standard with enabled := true, finalityDepth := 8 }⟩ := by
  decide +kernel

end NodeSettings

end ChainView

import Dataflow.Document.Conversion
import Dataflow.Proofs.Graph.Sound
import Dataflow.Proofs.Text.Letters
import Dataflow.Proofs.Value.Json
import Mathlib.Data.List.Forall2
import Mathlib.Data.String.Basic
/-!
Workflows that go out as documents and come in again.

On the way out nothing is renamed; on the way in the editor's names become the names of settings, and JSON has turned
numbers that are not finite into null. So a workflow comes back with normalized settings and is otherwise the same
(`toWorkflow_ofWorkflow`). What has come in once is normalized already, because a name that stands for a setting
stands for itself (`settingName_settingName`), and so it comes back unchanged (`toWorkflow_ofWorkflow_toWorkflow`).

The integrity check on the way in does not get in the way: ids, roles and connections are the same, and the default
rules ask no more than others do.
-/

set_option autoImplicit false

namespace Dataflow

namespace Document

/-! ## Names -/

/-- A name in small letters and underscores has no words to part. -/
theorem snakeCase_eq_self {name : List Char} (h : ∀ c ∈ name, c.isUpper = false) : snakeCase name = name := by
  cases name with
  | nil => rfl
  | cons c rest =>
    obtain ⟨hc, hrest⟩ := List.forall_mem_cons.1 h
    have hparts : rest.flatMap (fun c => if c.isUpper then ['_', c.toLower] else [c]) = rest := by
      calc
        _ = rest.flatMap (fun c => [c]) := by
          refine List.flatMap_congr fun c hc => ?_
          rw [hrest c hc]
          rfl
        _ = rest := List.flatMap_singleton' rest
    rw [snakeCase, hparts, toLower_of_not_isUpper (by simp [hc])]

theorem isUpper_of_mem_snakeCase {name : List Char} {c : Char} (h : c ∈ snakeCase name) : c.isUpper = false := by
  cases name with
  | nil => cases h
  | cons d rest =>
    rw [snakeCase, List.mem_cons, List.mem_flatMap] at h
    rcases h with rfl | ⟨e, -, he⟩
    · exact isUpper_toLower d
    · by_cases hupper : e.isUpper = true
      · rw [if_pos hupper] at he
        rcases List.mem_pair.1 he with rfl | rfl
        · decide
        · exact isUpper_toLower e
      · rw [if_neg hupper, List.mem_singleton] at he
        rw [he]
        simpa using hupper

/-- The names in settings are in small letters, and none of them is replaced. -/
theorem renames_fixed : ∀ r ∈ renames, (∀ c ∈ r.2.toList, c.isUpper = false) ∧ renames.lookup r.2 = none := by
  simp [renames, List.lookup_cons]

/-- **The name of a setting stands for itself.** -/
theorem settingName_settingName (name : String) : settingName (settingName name) = settingName name := by
  -- Whether it was replaced or not, the name is in small letters and stands in no pair on the left.
  have hfixed {s : String} (hsmall : ∀ c ∈ s.toList, c.isUpper = false) (hkept : renames.lookup s = none) :
      settingName s = s := by
    rw [settingName, snakeCase_eq_self hsmall, String.ofList_toList, hkept, Option.getD_none]
  have hsmall : ∀ c ∈ (String.ofList (snakeCase name.toList)).toList, c.isUpper = false := by
    intro c hc
    rw [String.toList_ofList] at hc
    exact isUpper_of_mem_snakeCase hc
  cases hlookup : renames.lookup (String.ofList (snakeCase name.toList)) with
  | none =>
    have hname : settingName name = String.ofList (snakeCase name.toList) := by
      rw [settingName, hlookup, Option.getD_none]
    rw [hname]
    exact hfixed hsmall hlookup
  | some s =>
    have hname : settingName name = s := by rw [settingName, hlookup, Option.getD_some]
    obtain ⟨front, back, hsplit, -⟩ := List.lookup_eq_some_iff.1 hlookup
    obtain ⟨hs, hkept⟩ := renames_fixed _ (hsplit ▸ List.mem_append_right front (List.mem_cons_self ..))
    rw [hname]
    exact hfixed hs hkept

/-! ## Settings -/

/-- The settings `d` are `c` as it comes back: under the names that its names stand for, and with finite parts only.
Where two names become one, the entry counts whose name in `c` comes last. -/
def Normalizes (c d : Config) : Prop :=
  ∀ key x, d.get? key = some x ↔ ∃ name v, c.get? name = some v ∧ settingName name = key ∧ v.finitePart = x ∧
    ∀ other, (c.get? other).isSome = true → settingName other = key → other ≤ name

/-- Settings that have gone out and come in. -/
theorem toConfig_mapValues_toJson (c : Config) : toConfig (c.mapValues Value.toJson) =
    .ofList (c.entries.map fun e => (settingName e.1, e.2.finitePart)) := by
  rw [toConfig, Dict.mapValues, List.map_map]
  refine congrArg Dict.ofList (List.map_congr_left fun e _ => ?_)
  exact congrArg (settingName e.1, ·) (Value.ofJson_toJson e.2)

theorem normalizes_toConfig (c : Config) : Normalizes c (toConfig (c.mapValues Value.toJson)) := by
  intro key x
  rw [toConfig_mapValues_toJson, Dict.get?_ofList_eq_some_iff]
  constructor
  · rintro ⟨front, back, hsplit, hlast⟩
    obtain ⟨front', tail, hentries, rfl, htail⟩ := List.map_eq_append_iff.1 hsplit
    obtain ⟨⟨name, v⟩, back', rfl, he, rfl⟩ := List.map_eq_cons_iff.1 htail
    obtain ⟨rfl, rfl⟩ := Prod.mk.inj he
    have hsorted := c.sorted
    rw [Entries.Sorted, hentries, List.pairwise_append] at hsorted
    refine ⟨name, v, Dict.mem_entries_iff.1 (by simp [hentries]), rfl, rfl, fun other hother hsame => ?_⟩
    -- An entry that becomes the same name is none of the later ones, and the names of earlier ones are smaller.
    obtain ⟨u, hu⟩ := Option.isSome_iff_exists.1 hother
    have hmem : (other, u) ∈ front' ++ (name, v) :: back' := hentries ▸ Dict.mem_entries_iff.2 hu
    rcases List.mem_append.1 hmem with hmem | hmem
    · exact le_of_lt (hsorted.2.2 _ hmem _ (List.mem_cons_self ..))
    · rcases List.mem_cons.1 hmem with heq | hmem
      · exact le_of_eq (Prod.mk.inj heq).1
      · exact absurd hsame (hlast _ (List.mem_map_of_mem hmem))
  · rintro ⟨name, v, hv, rfl, rfl, hgreatest⟩
    obtain ⟨front, back, hentries⟩ := List.append_of_mem (Dict.mem_entries_iff.2 hv)
    have hsorted := c.sorted
    rw [Entries.Sorted, hentries, List.pairwise_append, List.pairwise_cons] at hsorted
    refine ⟨_, _, by rw [hentries, List.map_append, List.map_cons], fun e he hsame => ?_⟩
    obtain ⟨⟨other, u⟩, hmem, rfl⟩ := List.mem_map.1 he
    -- A later entry of the same name would be greater than the greatest.
    have hother : (c.get? other).isSome = true := by
      rw [Dict.mem_entries_iff.1 (hentries ▸ List.mem_append_right _ (List.mem_cons_of_mem _ hmem)), Option.isSome_some]
    exact absurd (hsorted.2.1.1 _ hmem) (String.not_lt.2 (hgreatest other hother hsame))

/-- Settings under their own names and with finite numbers only come back as they are. -/
theorem toConfig_mapValues_eq_self {c : Config} (h : ∀ e ∈ c.entries, settingName e.1 = e.1 ∧ e.2.Finite) :
    toConfig (c.mapValues Value.toJson) = c := by
  have hmap : c.entries.map (fun e => (settingName e.1, e.2.finitePart)) = c.entries := by
    calc
      _ = c.entries.map id := by
        refine List.map_congr_left fun e he => ?_
        rw [(h e he).1, Value.finitePart_eq_self _ (h e he).2]
        rfl
      _ = c.entries := List.map_id _
  rw [toConfig_mapValues_toJson, hmap, Dict.ofList_entries]

/-- Settings that come from a document are under their own names. -/
theorem of_mem_toConfig {data : Dict Json} (hdata : ∀ e ∈ data.entries, e.2.Finite) :
    ∀ e ∈ (toConfig data).entries, settingName e.1 = e.1 ∧ e.2.Finite := by
  rintro ⟨key, x⟩ he
  have hmem := Dict.mem_of_get?_ofList (Dict.mem_entries_iff.1 he)
  obtain ⟨⟨name, j⟩, hj, heq⟩ := List.mem_map.1 hmem
  obtain ⟨rfl, rfl⟩ := Prod.mk.inj heq
  exact ⟨settingName_settingName name, Json.finite_ofJson j (hdata _ hj)⟩

/-! ## Nodes -/

/-- A node comes back with its role, whether the document says it or the kind implies it. -/
theorem toNode_ofNode (n : Node) :
    toNode (ofNode n) = { n with config := toConfig (n.config.mapValues Value.toJson) } := by
  have hrole : (ofNode n).role.getD (Role.implied n.kind) = n.role := by
    -- The role is left out just where the kind implies it.
    by_cases h : Role.implied n.kind = n.role
    · simp [ofNode, h]
    · simp [ofNode, h]
  have hkind : (ofNode n).kind = n.kind := rfl
  rw [toNode, hkind, hrole]
  rfl

/-! ## Workflows -/

/-- The workflow that a document describes, sound or not. -/
def described (d : Document) : Workflow :=
  { Workflow.ofParts d.name (d.nodes.map toNode) d.connections with description := d.description }

theorem toWorkflow_eq_ok_iff {d : Document} {w : Workflow} :
    d.toWorkflow = .ok w ↔ d.described = w ∧ w.checkIntegrity = .ok () := by
  rw [toWorkflow, described]
  constructor
  · intro h
    split at h
    · rename_i hok
      obtain rfl := Except.ok.inj h
      exact ⟨rfl, hok⟩
    · cases h
  · rintro ⟨rfl, hok⟩
    rw [hok]

theorem described_ofWorkflow_nodes (w : Workflow) : (ofWorkflow w).described.nodes =
    w.nodes.map fun n => { n with config := toConfig (n.config.mapValues Value.toJson) } := by
  have hnodes : (ofWorkflow w).described.nodes = (w.nodes.map ofNode).map toNode := rfl
  rw [hnodes, List.map_map]
  exact List.map_congr_left fun n _ => toNode_ofNode n

/-- A sound workflow is sound when it comes back. -/
theorem sound_described {w : Workflow} (hw : w.Sound) : (ofWorkflow w).described.Sound := by
  have hkept : (ofWorkflow w).described.nodes.map (fun n => (n.id, n.role)) = w.nodes.map fun n => (n.id, n.role) := by
    rw [described_ofWorkflow_nodes, List.map_map]
    rfl
  have hids : (ofWorkflow w).described.ids = w.ids := by
    rw [Workflow.ids, described_ofWorkflow_nodes, List.map_map]
    rfl
  refine hw.mono ?_ (List.Sublist.refl _) (fun h => by cases h) fun c _ => ?_
  · rw [Workflow.DistinctIds, hids]
    exact hw.distinctIds
  · exact ⟨Workflow.role?_congr hkept _, Workflow.role?_congr hkept _⟩

/-- A sound workflow comes back. -/
theorem toWorkflow_ofWorkflow_eq {w : Workflow} (hw : w.Sound) :
    (ofWorkflow w).toWorkflow = .ok (ofWorkflow w).described :=
  toWorkflow_eq_ok_iff.2 ⟨rfl, Workflow.checkIntegrity_eq_ok_iff.2 (sound_described hw)⟩

/-- What a document describes, under the default rules, comes back as it is. -/
theorem described_ofWorkflow_described {d : Document}
    (hd : ∀ n ∈ d.nodes, ∀ e ∈ n.data.entries, e.2.Finite) :
    (ofWorkflow d.described).described = d.described := by
  have hnodes : (ofWorkflow d.described).described.nodes = d.described.nodes := by
    rw [described_ofWorkflow_nodes]
    calc
      _ = d.described.nodes.map id := by
        refine List.map_congr_left fun n hn => ?_
        obtain ⟨m, hm, rfl⟩ := List.mem_map.1 hn
        have hconfig : (toNode m).config = toConfig m.data := rfl
        rw [toConfig_mapValues_eq_self (hconfig ▸ of_mem_toConfig (hd m hm)), id]
      _ = d.described.nodes := List.map_id _
  have hall (v : Workflow) : (ofWorkflow v).described =
      { name := v.name, description := v.description, nodes := (ofWorkflow v).described.nodes
        connections := v.connections, lastNumber := v.connections.length } := rfl
  rw [hall, hnodes]
  rfl

/-! ## Main statements -/

/-- **A workflow survives the way out and in.** A sound workflow comes back with its name, its description, its
connections and its nodes in their order. Each node has the id, the role and the kind that it had, and its settings
are normalized; so nodes whose settings are under their own names, with finite numbers only, are the same. -/
theorem toWorkflow_ofWorkflow {w : Workflow} (hw : w.checkIntegrity = .ok ()) :
    ∃ v, (ofWorkflow w).toWorkflow = .ok v ∧ v.name = w.name ∧ v.description = w.description ∧
      v.connections = w.connections ∧
      List.Forall₂ (fun m n => n.id = m.id ∧ n.role = m.role ∧ n.kind = m.kind ∧ Normalizes m.config n.config)
        w.nodes v.nodes ∧
      ((∀ n ∈ w.nodes, ∀ e ∈ n.config.entries, settingName e.1 = e.1 ∧ e.2.Finite) → v.nodes = w.nodes) := by
  refine ⟨_, toWorkflow_ofWorkflow_eq (Workflow.checkIntegrity_eq_ok_iff.1 hw), rfl, rfl, rfl, ?_, fun hfixed => ?_⟩
  · rw [described_ofWorkflow_nodes, List.forall₂_map_right_iff]
    exact List.forall₂_same.2 fun n _ => ⟨rfl, rfl, rfl, normalizes_toConfig n.config⟩
  · rw [described_ofWorkflow_nodes]
    calc
      _ = w.nodes.map id := by
        refine List.map_congr_left fun n hn => ?_
        rw [toConfig_mapValues_eq_self (hfixed n hn), id]
      _ = w.nodes := List.map_id _

/-- A sort joined to a merge, where neither kind implies the role. Of the two names for the order, the editor's comes
last, and its value is not finite. -/
def borrowed : Workflow :=
  .ofParts "borrowed"
    [⟨"a", .source, "sort", .ofList [("sortType", .number (.infinity false)), ("by", .text "length")]⟩,
      ⟨"b", .sink, "merge", .empty⟩]
    [⟨"1", "a", "b"⟩]

theorem toWorkflow_ofWorkflow_borrowed : borrowed.checkIntegrity = .ok () ∧
    ∃ v, (ofWorkflow borrowed).toWorkflow = .ok v ∧ v.connections = borrowed.connections ∧
      ∃ n ∈ v.nodes, n.id = "a" ∧ n.role = .source ∧ n.config.get? "by" = some .null := by
  have hok : borrowed.checkIntegrity = .ok () := rfl
  obtain ⟨v, hv, -, -, hconnections, hnodes, -⟩ := toWorkflow_ofWorkflow hok
  refine ⟨hok, v, hv, hconnections, ?_⟩
  generalize v.nodes = nodes at hnodes
  obtain ⟨n, -, ⟨hid, hrole, -, hnormalizes⟩, -, rfl⟩ := List.forall₂_cons_left_iff.1 hnodes
  refine ⟨n, List.mem_cons_self .., hid, hrole, (hnormalizes "by" .null).2 ?_⟩
  refine ⟨"sortType", .number (.infinity false), rfl, rfl, rfl, fun other hother _ => ?_⟩
  obtain ⟨x, hx⟩ := Option.isSome_iff_exists.1 hother
  have hmem := Dict.mem_of_get?_ofList hx
  simp only [List.mem_cons, Prod.mk.injEq, List.not_mem_nil, or_false] at hmem
  rcases hmem with ⟨rfl, -⟩ | ⟨rfl, -⟩
  · exact le_refl _
  · decide

/-- **What has come in comes in again unchanged**, with all its settings, under the same rules, and with the same
number for the next connection. -/
theorem toWorkflow_ofWorkflow_toWorkflow {d : Document} {w : Workflow}
    (hd : ∀ n ∈ d.nodes, ∀ e ∈ n.data.entries, e.2.Finite) (hw : d.toWorkflow = .ok w) :
    (ofWorkflow w).toWorkflow = .ok w := by
  obtain ⟨rfl, hok⟩ := toWorkflow_eq_ok_iff.1 hw
  rw [toWorkflow_ofWorkflow_eq (Workflow.checkIntegrity_eq_ok_iff.1 hok), described_ofWorkflow_described hd]

/-- A document with two of the editor's names for one setting, which come in under a name that stays. -/
def twice : Document where
  name := "twice"
  nodes := [⟨"a", "aggregate", some .source, .ofList [("aggregateType", .array [.number (.positive 3)]),
    ("transformType", .string "text")]⟩]

theorem toWorkflow_ofWorkflow_toWorkflow_twice : (∀ n ∈ twice.nodes, ∀ e ∈ n.data.entries, e.2.Finite) ∧
    ∃ w, twice.toWorkflow = .ok w ∧ (ofWorkflow w).toWorkflow = .ok w := by
  have hfinite : ∀ n ∈ twice.nodes, ∀ e ∈ n.data.entries, e.2.Finite := by
    have hthree : (JsonNumber.positive 3).toNumber.isFinite = true := by decide +kernel
    intro n hn e he
    obtain rfl := List.mem_singleton.1 hn
    have hmem := Dict.mem_of_get?_ofList (Dict.mem_entries_iff.1 he)
    rcases List.mem_pair.1 hmem with hmem | hmem
    · rw [(Prod.mk.inj hmem).2]
      exact ⟨hthree, trivial⟩
    · rw [(Prod.mk.inj hmem).2]
      trivial
  have hw : twice.toWorkflow = .ok twice.described := toWorkflow_eq_ok_iff.2 ⟨rfl, rfl⟩
  exact ⟨hfinite, _, hw, toWorkflow_ofWorkflow_toWorkflow hfinite hw⟩

end Document

end Dataflow

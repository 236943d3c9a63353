import Dataflow.Handler.Items
import Mathlib.Data.List.Perm.Basic
import Mathlib.Data.List.Sort
/-!
What a sort makes of items.

To sort stably means three things at once: the items are the same ones, they stand in order, and those of one rank
stand as they stood before (`StableSort`). Where the comparison is a total preorder only one list has all three
(`StableSort.unique`), so a list that is in order already stays as it is. The three keys of the handler compare by a
text, a length and a number, and each gives such a preorder. For numbers this is not plain: a NaN is below nothing
and above nothing, which is why it counts as 0 here, and of the two zeros the negative one comes first
(`Number.totalRank_le_iff`).

In descending order the comparison is turned round and the list is not, so that items of one rank keep their order
there as well.
-/

set_option autoImplicit false

namespace Dataflow

/-! ## Stable sorting -/

section
variable {α : Type} {le : α → α → Bool}

/-- Any two items can be compared, and comparisons can be chained. -/
structure TotalPreorder (le : α → α → Bool) : Prop where
  total : ∀ a b, le a b = true ∨ le b a = true
  trans : ∀ a b c, le a b = true → le b c = true → le a c = true

/-- Whether two items compare equal. -/
def tied (le : α → α → Bool) (a b : α) : Bool := le a b && le b a

/-- A list is the stable sort of items. -/
structure StableSort (le : α → α → Bool) (items sorted : List α) : Prop where
  perm : sorted.Perm items
  ordered : sorted.Pairwise fun a b => le a b = true
  /-- The items that compare equal to a given one follow each other as they did before. -/
  ties : ∀ a, sorted.filter (tied le a) = items.filter (tied le a)

theorem tied_iff {a b : α} : tied le a b = true ↔ le a b = true ∧ le b a = true := by
  rw [tied, Bool.and_eq_true]

namespace TotalPreorder

theorem tied_self (h : TotalPreorder le) (a : α) : tied le a a = true := by
  have hself : le a a = true := (h.total a a).elim id id
  exact tied_iff.2 ⟨hself, hself⟩

/-- Comparing by what stands in an order. -/
theorem ofRank {β : Type} [LE β] [DecidableLE β] (total : ∀ a b : β, a ≤ b ∨ b ≤ a)
    (trans : ∀ a b c : β, a ≤ b → b ≤ c → a ≤ c) (rank : α → β) :
    TotalPreorder fun a b => decide (rank a ≤ rank b) := by
  refine ⟨fun a b => ?_, fun a b c hab hbc => ?_⟩
  · rw [decide_eq_true_iff, decide_eq_true_iff]
    exact total (rank a) (rank b)
  · rw [decide_eq_true_iff] at *
    exact trans (rank a) (rank b) (rank c) hab hbc

/-- The same comparison from the other side. -/
theorem flip (h : TotalPreorder le) : TotalPreorder fun a b => le b a where
  total a b := h.total b a
  trans a b c hab hbc := h.trans c b a hbc hab

/-- Items that compare equal to one and the same item are in order, whatever their order is. -/
theorem pairwise_filter_tied (h : TotalPreorder le) (a : α) (items : List α) :
    (items.filter (tied le a)).Pairwise fun b c => le b c = true := by
  refine List.pairwise_of_forall_mem_list ?_
  intro b hb c hc
  have hba : le b a = true := (tied_iff.1 (List.mem_filter.1 hb).2).2
  have hac : le a c = true := (tied_iff.1 (List.mem_filter.1 hc).2).1
  exact h.trans b a c hba hac

/-- Merge sort sorts stably: the items of one rank are in order as they stand, so they go into the result as a
sublist, and there are no more of them in it. -/
theorem stableSort_mergeSort (h : TotalPreorder le) (items : List α) :
    StableSort le items (items.mergeSort le) := by
  have htotal (a b : α) : (le a b || le b a) = true := by
    rw [Bool.or_eq_true]
    exact h.total a b
  have hperm : (items.mergeSort le).Perm items := List.mergeSort_perm items le
  refine ⟨hperm, List.pairwise_mergeSort h.trans htotal items, ?_⟩
  intro a
  have hkept : (items.filter (tied le a)).Sublist (items.mergeSort le) :=
    List.sublist_mergeSort h.trans htotal (h.pairwise_filter_tied a items) List.filter_sublist
  have hsub := hkept.filter (tied le a)
  simp only [List.filter_filter, Bool.and_self] at hsub
  exact (hsub.eq_of_length (hperm.filter (tied le a)).length_eq.symm).symm

end TotalPreorder

namespace StableSort

variable {items sorted other : List α}

/-- Two lists in order with the same items of every rank are equal: their first items are of the lowest rank, both
are the first ones of it, and the rest is as the lists are. -/
theorem eq_of_ordered (h : TotalPreorder le) (hsorted : sorted.Pairwise fun a b => le a b = true)
    (hother : other.Pairwise fun a b => le a b = true)
    (hties : ∀ a, sorted.filter (tied le a) = other.filter (tied le a)) : sorted = other := by
  induction sorted generalizing other with
  | nil =>
    cases other with
    | nil => rfl
    | cons b other =>
      have hb := hties b
      rw [List.filter_cons_of_pos (h.tied_self b)] at hb
      cases hb
  | cons a sorted ih =>
    cases other with
    | nil =>
      have ha := hties a
      rw [List.filter_cons_of_pos (h.tied_self a)] at ha
      cases ha
    | cons b other =>
      have hfirst {c : α} {rest : List α} (hrest : (c :: rest).Pairwise fun a b => le a b = true) {d : α}
          (hd : d ∈ c :: rest) : le c d = true := by
        rcases List.mem_cons.1 hd with rfl | hd
        · exact (tied_iff.1 (h.tied_self d)).1
        · exact (List.pairwise_cons.1 hrest).1 d hd
      have hmem : a ∈ b :: other := by
        have ha : a ∈ (a :: sorted).filter (tied le a) := List.mem_filter.2 ⟨List.mem_cons_self, h.tied_self a⟩
        rw [hties a] at ha
        exact (List.mem_filter.1 ha).1
      have hmem' : b ∈ a :: sorted := by
        have hb : b ∈ (b :: other).filter (tied le b) := List.mem_filter.2 ⟨List.mem_cons_self, h.tied_self b⟩
        rw [← hties b] at hb
        exact (List.mem_filter.1 hb).1
      have htied : tied le a b = true := tied_iff.2 ⟨hfirst hsorted hmem', hfirst hother hmem⟩
      obtain rfl : a = b := by
        have hties := hties a
        rw [List.filter_cons_of_pos (h.tied_self a), List.filter_cons_of_pos htied] at hties
        exact (List.cons.inj hties).1
      have hrest : sorted = other := by
        refine ih (List.pairwise_cons.1 hsorted).2 (List.pairwise_cons.1 hother).2 ?_
        intro c
        have hties := hties c
        rw [List.filter_cons, List.filter_cons] at hties
        by_cases hc : tied le c a = true
        · rw [if_pos hc, if_pos hc] at hties
          exact (List.cons.inj hties).2
        · rw [if_neg hc, if_neg hc] at hties
          exact hties
      rw [hrest]

/-- Items have one stable sort. -/
theorem unique (h : TotalPreorder le) (hsorted : StableSort le items sorted) (hother : StableSort le items other) :
    other = sorted :=
  eq_of_ordered h hother.ordered hsorted.ordered fun a => (hother.ties a).trans (hsorted.ties a).symm

/-- What is sorted is its own stable sort. -/
theorem again (h : StableSort le items sorted) : StableSort le sorted sorted :=
  ⟨.refl sorted, h.ordered, fun _ => rfl⟩

end StableSort

end

/-! ## Numbers in order -/

namespace Number

/-- The total order of numbers that are no NaN is the numerical one, with `-0` before `0`. -/
theorem totalRank_le_iff {x y : Number} (hx : x.isNaN = false) (hy : y.isNaN = false) :
    x.totalRank ≤ y.totalRank ↔
      x.lt y = true ∨ x.same y = true ∧ (y.isNegative = true → x.isNegative = true) := by
  have hlt : x.lt y = true ↔ x.rank < y.rank := by simp [lt, hx, hy]
  have hsame : x.same y = true ↔ x.rank = y.rank := by simp [same, hx, hy]
  rw [hlt, hsame, totalRank, totalRank, rank, rank]
  -- Only a negative number and its opposite sign leave a choice: there both ranks may be 0.
  cases x.isNegative <;> cases y.isNegative <;> simp <;> omega

end Number

/-- The number that an item is sorted by is never a NaN. -/
theorem isNaN_sortNumber (v : Value) : (sortNumber v).isNaN = false := by
  unfold sortNumber
  cases v.toNumber? with
  | none => decide
  | some x =>
    show (if x.isNaN = true then Number.zero else x).isNaN = false
    by_cases hx : x.isNaN = true
    · rw [if_pos hx]
      decide
    · rw [if_neg hx]
      exact Bool.eq_false_of_not_eq_true hx

/-! ## The keys -/

namespace SortKey

/-- Texts are compared by their first characters that differ. -/
theorem le_alphabetical_iff (a b : Value) : alphabetical.le a b = true ↔ a.toText ≤ b.toText := decide_eq_true_iff

/-- Numbers are in their order, and of the two zeros the negative one comes first. -/
theorem le_numerical_iff (a b : Value) : numerical.le a b = true ↔ (sortNumber a).lt (sortNumber b) = true ∨
    (sortNumber a).same (sortNumber b) = true ∧
      ((sortNumber b).isNegative = true → (sortNumber a).isNegative = true) := by
  rw [SortKey.le, decide_eq_true_iff]
  exact Number.totalRank_le_iff (isNaN_sortNumber a) (isNaN_sortNumber b)

/-- A length is a count of characters. -/
theorem le_length_iff (a b : Value) : length.le a b = true ↔ a.toText.length ≤ b.toText.length := by
  rw [SortKey.le, decide_eq_true_iff, String.length_toList, String.length_toList]

/-- The comparison of items in ascending order, or turned round. -/
def inOrder (key : SortKey) (descending : Bool) (a b : Value) : Bool := if descending then key.le b a else key.le a b

/-- **Every key compares by a total preorder**: a text, a length, or a number that is no NaN. -/
theorem totalPreorder_le (key : SortKey) : TotalPreorder key.le := by
  cases key with
  | alphabetical => exact .ofRank String.le_total (fun _ _ _ => String.le_trans) Value.toText
  | numerical => exact .ofRank Int.le_total (fun _ _ _ => Int.le_trans) fun v => (sortNumber v).totalRank
  | length => exact .ofRank Nat.le_total (fun _ _ _ => Nat.le_trans) fun v : Value => v.toText.toList.length

theorem totalPreorder_inOrder (key : SortKey) (descending : Bool) : TotalPreorder (key.inOrder descending) := by
  cases descending with
  | false => exact key.totalPreorder_le
  | true => exact key.totalPreorder_le.flip

theorem stableSort_sortBy (key : SortKey) (descending : Bool) (items : List Value) :
    StableSort (key.inOrder descending) items (sortBy key descending items) :=
  (key.totalPreorder_inOrder descending).stableSort_mergeSort items

end SortKey

/-! ## The handler -/

/-- Whether the settings of a sort ask for descending order. -/
def Config.asksDescending (config : Config) : Bool := config.textD "order" "asc" == "desc"

theorem eq_beq_of_lookup_sortOrderNames {name : String} {descending : Bool}
    (h : sortOrderNames.lookup name = some descending) : descending = (name == "desc") := by
  rw [sortOrderNames, List.lookup_cons, List.lookup_cons, List.lookup_nil] at h
  by_cases hasc : name = "asc"
  · subst hasc
    exact (Option.some.inj h).symm
  · have hasc : (name == "asc") = false := beq_eq_false_iff_ne.2 hasc
    rw [hasc] at h
    cases hdesc : name == "desc" with
    | true =>
      rw [hdesc] at h
      exact (Option.some.inj h).symm
    | false =>
      rw [hdesc] at h
      cases h

section
variable {config : Config} {key : SortKey}

/-- Settings that are accepted name one of the two orders. -/
theorem choose_order_of_validate (hvalid : sortItems.validate config = .ok ())
    {choice : Option SortKey} (hkey : SortKey.names.lookup (config.textD "by" "none") = some choice) :
    config.choose "order" "asc" sortOrderNames = .ok config.asksDescending := by
  have hby : config.choose "by" "none" SortKey.names = .ok choice := Config.choose_eq_ok_iff.2 hkey
  cases horder : config.choose "order" "asc" sortOrderNames with
  | error fault => simp [sortItems, Handler.ofSettings, hby, horder, bind, Except.bind, Except.map] at hvalid
  | ok descending =>
    rw [Config.asksDescending, eq_beq_of_lookup_sortOrderNames (Config.choose_eq_ok_iff.1 horder)]

/-- The settings of a sort are read as they were when they were accepted. -/
theorem sortItems_invoke_of_lookup (hvalid : sortItems.validate config = .ok ()) {choice : Option SortKey}
    (hkey : SortKey.names.lookup (config.textD "by" "none") = some choice) (v : Value) :
    (sortItems.invoke [v] config).result =
      .ok (.list (choice.elim v.items fun key => sortBy key config.asksDescending v.items)) := by
  have hread : (do
      let key ← config.choose "by" "none" SortKey.names
      let descending ← config.choose "order" "asc" sortOrderNames
      .ok (key, descending)) = (.ok (choice, config.asksDescending) : Except ConfigFault (Option SortKey × Bool)) := by
    rw [Config.choose_eq_ok_iff.2 hkey, choose_order_of_validate hvalid hkey]
    rfl
  rw [sortItems, Handler.invoke_ofSettings hread]
  cases choice with
  | none => rfl
  | some key => rfl

/-- With a key the items come out sorted by it. -/
theorem sortItems_invoke (hvalid : sortItems.validate config = .ok ())
    (hkey : SortKey.names.lookup (config.textD "by" "none") = some (some key)) (v : Value) :
    (sortItems.invoke [v] config).result = .ok (.list (sortBy key config.asksDescending v.items)) :=
  sortItems_invoke_of_lookup hvalid hkey v

/-- Without a key they come out as they are. -/
theorem sortItems_invoke_unsorted (hvalid : sortItems.validate config = .ok ())
    (hkey : config.textD "by" "none" = "none") (v : Value) :
    (sortItems.invoke [v] config).result = .ok (.list v.items) := by
  have hnone : SortKey.names.lookup (config.textD "by" "none") = some none := by
    rw [hkey]
    rfl
  exact sortItems_invoke_of_lookup hvalid hnone v

/-- **The handler sorts stably.** The comparison by each key is a total preorder of all values. By the alphabet it is
the order of texts, by length that of their counts of characters, and by numbers that of numbers, with `-0` before `0`
and with 0 for a NaN and for what is no number. Whatever comes in, the items go out as their stable sort in the
order asked for; there is no other, and to sort it again changes nothing. -/
theorem sortItems_stable (hvalid : sortItems.validate config = .ok ())
    (hkey : SortKey.names.lookup (config.textD "by" "none") = some (some key)) (v : Value) :
    TotalPreorder key.le ∧
      (key = .alphabetical → ∀ a b, key.le a b = true ↔ a.toText ≤ b.toText) ∧
      (key = .length → ∀ a b, key.le a b = true ↔ a.toText.length ≤ b.toText.length) ∧
      (key = .numerical → ∀ a b, key.le a b = true ↔ (sortNumber a).lt (sortNumber b) = true ∨
        (sortNumber a).same (sortNumber b) = true ∧
          ((sortNumber b).isNegative = true → (sortNumber a).isNegative = true)) ∧
      ∃ sorted, (sortItems.invoke [v] config).result = .ok (.list sorted) ∧
        StableSort (key.inOrder config.asksDescending) v.items sorted ∧
        (∀ other, StableSort (key.inOrder config.asksDescending) v.items other → other = sorted) ∧
        (sortItems.invoke [.list sorted] config).result = .ok (.list sorted) := by
  have horder := key.totalPreorder_inOrder config.asksDescending
  have hsorted := key.stableSort_sortBy config.asksDescending v.items
  refine ⟨key.totalPreorder_le, ?_, ?_, ?_, sortBy key config.asksDescending v.items, sortItems_invoke hvalid hkey v,
    hsorted, fun other hother => StableSort.unique horder hsorted hother, ?_⟩
  · rintro rfl a b
    exact SortKey.le_alphabetical_iff a b
  · rintro rfl a b
    exact SortKey.le_length_iff a b
  · rintro rfl a b
    exact SortKey.le_numerical_iff a b
  · have hagain := key.stableSort_sortBy config.asksDescending (sortBy key config.asksDescending v.items)
    rw [sortItems_invoke hvalid hkey, Value.items, StableSort.unique horder hsorted.again hagain]

end

/-- The settings of a sort by numbers from the greatest. -/
def greatestFirst : Config := .ofList [("by", .text "numerical"), ("order", .text "desc")]

/-- A NaN is sorted with the zeros, and stays before a zero that came after it. -/
theorem sortItems_stable_greatestFirst : sortItems.validate greatestFirst = .ok () ∧
    SortKey.names.lookup (greatestFirst.textD "by" "none") = some (some .numerical) ∧
    StableSort (SortKey.numerical.inOrder true) (["NaN", "3", "0"].map .text) (["3", "NaN", "0"].map .text) := by
  have hvalid : sortItems.validate greatestFirst = .ok () := rfl
  have hkey : SortKey.names.lookup (greatestFirst.textD "by" "none") = some (some .numerical) := rfl
  have hdescending : greatestFirst.asksDescending = true := rfl
  have hresult : sortBy .numerical true (["NaN", "3", "0"].map .text) = ["3", "NaN", "0"].map .text := by
    have hrises : SortKey.numerical.le (.text "3") (.text "NaN") = false := by decide +kernel
    have hfalls : SortKey.numerical.le (.text "0") (.text "3") = true := by decide +kernel
    have hties : SortKey.numerical.le (.text "0") (.text "NaN") = true := by decide +kernel
    simp [sortBy, List.mergeSort, hrises, hfalls, hties]
  obtain ⟨-, -, -, -, sorted, hinvoke, hsorted, -⟩ :=
    sortItems_stable hvalid hkey (.list (["NaN", "3", "0"].map .text))
  rw [sortItems_invoke hvalid hkey, hdescending, Value.items, hresult] at hinvoke
  obtain rfl : ["3", "NaN", "0"].map .text = sorted := Value.list.inj (Except.ok.inj hinvoke)
  rw [hdescending] at hsorted
  exact ⟨hvalid, hkey, hsorted⟩

end Dataflow

import Dataflow.Proofs.Handler.Items
import Dataflow.Proofs.Handler.Sort
/-!
The least and the greatest item, found in two ways.

To aggregate by `min` or `max` folds the numbers of the items and keeps one of each two. A sort by numbers puts the
items in the total order of bits, and the extremes are those at its ends. Both are extremes in the same sense
(`Number.Extreme`): a number of the list that no other one lies beyond. Numerically a list has only one of each
(`Number.Extreme.same`), whatever its order; by their bits there may be two, for the fold keeps the zero that it meets
first and the sort puts the negative one in front.

What is said of `min` holds of `max` with the order turned round, so the order is a parameter here.
-/

set_option autoImplicit false

namespace Dataflow

/-! ## Extremes -/

namespace Number

/-- A number of a list that comes before every number of it. -/
structure Extreme (before : Number → Number → Bool) (numbers : List Number) (m : Number) : Prop where
  mem : m ∈ numbers
  before : ∀ x ∈ numbers, before m x = true

/-- Numerical order from the greatest number down. -/
def ge (x y : Number) : Bool := y.le x

/-- A function that keeps the one of two numbers that comes before the other. Where both come before each other, it may
keep either. -/
structure Keeps (f : Number → Number → Number) (before : Number → Number → Bool) : Prop where
  refl : ∀ x, x.isNaN = false → before x x = true
  trans : ∀ x y z, before x y = true → before y z = true → before x z = true
  antisymm : ∀ x y, before x y = true → before y x = true → x.same y = true
  keep : ∀ x y, x.isNaN = false → y.isNaN = false →
    f x y = x ∧ before x y = true ∨ f x y = y ∧ before y x = true

theorem le_iff {x y : Number} : x.le y = true ↔ x.isNaN = false ∧ y.isNaN = false ∧ x.rank ≤ y.rank := by
  unfold le
  rw [Bool.and_eq_true, Bool.and_eq_true, Bool.not_eq_true', Bool.not_eq_true', decide_eq_true_iff, and_assoc]

theorem le_refl {x : Number} (hx : x.isNaN = false) : x.le x = true := le_iff.2 ⟨hx, hx, Int.le_refl _⟩

theorem le_trans {x y z : Number} (hxy : x.le y = true) (hyz : y.le z = true) : x.le z = true := by
  obtain ⟨hx, -, hxy⟩ := le_iff.1 hxy
  obtain ⟨-, hz, hyz⟩ := le_iff.1 hyz
  exact le_iff.2 ⟨hx, hz, Int.le_trans hxy hyz⟩

/-- Numbers that are not beyond each other are equal as numbers. -/
theorem same_of_le {x y : Number} (hxy : x.le y = true) (hyx : y.le x = true) : x.same y = true := by
  obtain ⟨hx, hy, hxy⟩ := le_iff.1 hxy
  obtain ⟨-, -, hyx⟩ := le_iff.1 hyx
  unfold same
  simp only [hx, hy, Bool.not_false, Bool.true_and, decide_eq_true_iff]
  omega

theorem keeps_min : Keeps Number.min Number.le where
  refl _ hx := le_refl hx
  trans _ _ _ hxy hyz := le_trans hxy hyz
  antisymm _ _ hxy hyx := same_of_le hxy hyx
  keep x y hx hy := by
    unfold Number.min
    simp only [hx, hy, Bool.false_eq_true, if_false]
    by_cases hxy : x.rank ≤ y.rank
    · rw [if_pos hxy]
      exact .inl ⟨rfl, le_iff.2 ⟨hx, hy, hxy⟩⟩
    · rw [if_neg hxy]
      exact .inr ⟨rfl, le_iff.2 ⟨hy, hx, by omega⟩⟩

theorem keeps_max : Keeps Number.max Number.ge where
  refl _ hx := le_refl hx
  trans _ _ _ hxy hyz := le_trans hyz hxy
  antisymm _ _ hxy hyx := same_of_le hyx hxy
  keep x y hx hy := by
    unfold Number.max ge
    simp only [hx, hy, Bool.false_eq_true, if_false]
    by_cases hyx : y.rank ≤ x.rank
    · rw [if_pos hyx]
      exact .inl ⟨rfl, le_iff.2 ⟨hy, hx, hyx⟩⟩
    · rw [if_neg hyx]
      exact .inr ⟨rfl, le_iff.2 ⟨hx, hy, by omega⟩⟩

section
variable {f : Number → Number → Number} {before : Number → Number → Bool} {numbers : List Number}

theorem Keeps.before_both (h : Keeps f before) {x y : Number} (hx : x.isNaN = false) (hy : y.isNaN = false) :
    (f x y = x ∨ f x y = y) ∧ before (f x y) x = true ∧ before (f x y) y = true := by
  rcases h.keep x y hx hy with ⟨hkept, hbefore⟩ | ⟨hkept, hbefore⟩
  · rw [hkept]
    exact ⟨.inl rfl, h.refl x hx, hbefore⟩
  · rw [hkept]
    exact ⟨.inr rfl, hbefore, h.refl y hy⟩

/-- Folding a list from its first number gives an extreme of it. -/
theorem Keeps.foldl (h : Keeps f before) {x : Number} {xs : List Number}
    (hnumbers : ∀ y ∈ x :: xs, y.isNaN = false) : Extreme before (x :: xs) (xs.foldl f x) := by
  -- On the numbers to come. The one kept so far comes before those that it was kept from, and what is kept in the end
  -- comes before it.
  induction xs generalizing x with
  | nil =>
    refine ⟨List.mem_singleton_self x, ?_⟩
    intro y hy
    rw [List.mem_singleton.1 hy]
    exact h.refl x (hnumbers x (List.mem_singleton_self x))
  | cons y xs ih =>
    have hx : x.isNaN = false := hnumbers x (by simp)
    have hy : y.isNaN = false := hnumbers y (by simp)
    obtain ⟨hone, hbeforex, hbeforey⟩ := h.before_both hx hy
    have hkept : (f x y).isNaN = false := by
      rcases hone with hone | hone
      · rw [hone, hx]
      · rw [hone, hy]
    obtain ⟨hmem, hall⟩ := ih (List.forall_mem_cons.2 ⟨hkept, fun z hz => hnumbers z (by simp [hz])⟩)
    have hfirst := hall (f x y) List.mem_cons_self
    rw [List.foldl_cons]
    refine ⟨?_, ?_⟩
    · rcases List.mem_cons.1 hmem with heq | hrest
      · rw [heq]
        rcases hone with hone | hone
        · simp [hone]
        · simp [hone]
      · simp [hrest]
    · intro z hz
      rcases List.mem_cons.1 hz with rfl | hz
      · exact h.trans _ _ _ hfirst hbeforex
      · rcases List.mem_cons.1 hz with rfl | hz
        · exact h.trans _ _ _ hfirst hbeforey
        · exact hall z (List.mem_cons_of_mem _ hz)

theorem Keeps.reduceNumbers (h : Keeps f before) (hne : numbers ≠ [])
    (hnumbers : ∀ x ∈ numbers, x.isNaN = false) :
    ∃ m, reduceNumbers f numbers = .number m ∧ Extreme before numbers m := by
  cases numbers with
  | nil => exact absurd rfl hne
  | cons x xs => exact ⟨xs.foldl f x, rfl, h.foldl hnumbers⟩

/-- The order of a list does not matter for its extremes. -/
theorem Extreme.of_perm {others : List Number} {m : Number} (h : Extreme before numbers m)
    (hperm : numbers.Perm others) : Extreme before others m :=
  ⟨hperm.mem_iff.1 h.mem, fun x hx => h.before x (hperm.mem_iff.2 hx)⟩

/-- Numerically there is only one extreme. -/
theorem Extreme.same {m n : Number} (hm : Extreme before numbers m) (hn : Extreme before numbers n)
    (hf : Keeps f before) : m.same n = true := hf.antisymm m n (hm.before n hn.mem) (hn.before m hm.mem)

/-- An ordered list has an extreme in front. -/
theorem Extreme.head (hordered : numbers.Pairwise fun x y => before x y = true)
    (hrefl : ∀ x ∈ numbers, before x x = true) (hne : numbers ≠ []) : Extreme before numbers (numbers.head hne) := by
  refine ⟨List.head_mem hne, ?_⟩
  intro x hx
  cases numbers with
  | nil => exact absurd rfl hne
  | cons y ys =>
    rcases List.mem_cons.1 hx with rfl | hx
    · exact hrefl x List.mem_cons_self
    · exact (List.pairwise_cons.1 hordered).1 x hx

end

end Number

/-! ## The ends of a sorted list -/

/-- An item without a NaN is sorted by its number. -/
theorem sortNumber_eq_itemNumber {v : Value} (h : (itemNumber v).isNaN = false) : sortNumber v = itemNumber v := by
  unfold itemNumber at h ⊢
  unfold sortNumber
  cases hv : v.toNumber? with
  | none => rfl
  | some x =>
    rw [hv, Option.getD_some] at h
    simp only [h, Bool.false_eq_true, if_false, Option.getD_some]

/-- The order of a sort by numbers refines the numerical one. -/
theorem le_of_numerical_le {a b : Value} (h : SortKey.numerical.le a b = true) :
    (sortNumber a).le (sortNumber b) = true := by
  have ha := isNaN_sortNumber a
  have hb := isNaN_sortNumber b
  refine Number.le_iff.2 ⟨ha, hb, ?_⟩
  rcases (SortKey.le_numerical_iff a b).1 h with hlt | ⟨hsame, -⟩
  · unfold Number.lt at hlt
    simp only [ha, hb, Bool.not_false, Bool.true_and, decide_eq_true_iff] at hlt
    omega
  · unfold Number.same at hsame
    simp only [ha, hb, Bool.not_false, Bool.true_and, decide_eq_true_iff] at hsame
    omega

/-- Items sorted by numbers have the least number in front and the greatest one at the end. -/
theorem StableSort.extremes {items sorted : List Value}
    (h : StableSort (SortKey.numerical.inOrder false) items sorted) (hne : items ≠ [])
    (hnumbers : ∀ v ∈ items, (itemNumber v).isNaN = false) :
    ∃ first last, sorted.head? = some first ∧ sorted.getLast? = some last ∧
      Number.Extreme Number.le (items.map itemNumber) (itemNumber first) ∧
      Number.Extreme Number.ge (items.map itemNumber) (itemNumber last) := by
  have hordered : (sorted.map itemNumber).Pairwise fun x y => x.le y = true := by
    refine List.pairwise_map.2 (h.ordered.imp_of_mem ?_)
    intro a b ha hb hab
    rw [← sortNumber_eq_itemNumber (hnumbers a (h.perm.mem_iff.1 ha)),
      ← sortNumber_eq_itemNumber (hnumbers b (h.perm.mem_iff.1 hb))]
    exact le_of_numerical_le hab
  have hrefl : ∀ x ∈ sorted.map itemNumber, x.le x = true := by
    intro x hx
    obtain ⟨v, hv, rfl⟩ := List.mem_map.1 hx
    exact Number.le_refl (hnumbers v (h.perm.mem_iff.1 hv))
  have hperm : (sorted.map itemNumber).Perm (items.map itemNumber) := h.perm.map itemNumber
  have hsortedNe : sorted ≠ [] := by
    rintro rfl
    exact hne (List.nil_perm.1 h.perm)
  refine ⟨sorted.head hsortedNe, sorted.getLast hsortedNe, List.head?_eq_some_head hsortedNe,
    List.getLast?_eq_some_getLast hsortedNe, ?_, ?_⟩
  · have hfirst := (Number.Extreme.head hordered hrefl (by simpa using hsortedNe)).of_perm hperm
    rwa [List.head_map] at hfirst
  · -- The last item is the first one from behind, and there the order is turned round.
    have hreversed : (sorted.map itemNumber).reverse.Pairwise fun x y => Number.ge x y = true :=
      List.pairwise_reverse.2 hordered
    have hlast := (Number.Extreme.head hreversed (fun x hx => hrefl x (List.mem_reverse.1 hx))
      (by simpa using hsortedNe)).of_perm ((List.reverse_perm _).trans hperm)
    rwa [List.head_reverse, List.getLast_map] at hlast

/-! ## The handlers -/

/-- To aggregate by an operation that reduces numbers gives an extreme of them. -/
theorem aggregate_invoke_extreme {config : Config} {name : String} {op : AggregateOp}
    {f : Number → Number → Number} {before : Number → Number → Bool} {v : Value}
    (hname : config.textD "op" "list" = name) (hop : AggregateOp.names.lookup name = some op)
    (hreduces : op.apply config v.items = reduceNumbers f (v.items.map itemNumber)) (hf : Number.Keeps f before)
    (hitems : v.items ≠ []) (hnumbers : ∀ item ∈ v.items, (itemNumber item).isNaN = false) :
    ∃ m, (aggregate.invoke [v] config).result = .ok (.number m) ∧
      Number.Extreme before (v.items.map itemNumber) m := by
  have hne : v.items.map itemNumber ≠ [] := fun h => hitems (List.map_eq_nil_iff.1 h)
  obtain ⟨m, hm, hextreme⟩ := hf.reduceNumbers hne (List.forall_mem_map.2 hnumbers)
  refine ⟨m, ?_, hextreme⟩
  rw [aggregate_invoke_singleton hname hop, hreduces, hm]

/-- **Both ways agree.** Where no item stands for a NaN, to aggregate by `min` and by `max` gives the numbers of the
first and of the last item that a sort by numbers puts out, what is no number counting as 0. Each is the number of an
item, no item lies beyond it, and it stays the same number in any other order of the items. -/
theorem aggregate_extremes_eq_sorted_ends {sorting least greatest : Config}
    (hvalid : sortItems.validate sorting = .ok ()) (hby : sorting.textD "by" "none" = "numerical")
    (hascending : sorting.asksDescending = false) (hmin : least.textD "op" "list" = "min")
    (hmax : greatest.textD "op" "list" = "max") {v : Value} (hitems : v.items ≠ [])
    (hnumbers : ∀ item ∈ v.items, (itemNumber item).isNaN = false) :
    ∃ sorted first last m n, (sortItems.invoke [v] sorting).result = .ok (.list sorted) ∧
      sorted.head? = some first ∧ sorted.getLast? = some last ∧
      (aggregate.invoke [v] least).result = .ok (.number m) ∧ m.same (itemNumber first) = true ∧
      (aggregate.invoke [v] greatest).result = .ok (.number n) ∧ n.same (itemNumber last) = true ∧
      ((∃ item ∈ v.items, itemNumber item = m) ∧ ∀ item ∈ v.items, m.le (itemNumber item) = true) ∧
      ((∃ item ∈ v.items, itemNumber item = n) ∧ ∀ item ∈ v.items, (itemNumber item).le n = true) ∧
      ∀ v' : Value, v'.items.Perm v.items →
        (∃ m', (aggregate.invoke [v'] least).result = .ok (.number m') ∧ m'.same m = true) ∧
          ∃ n', (aggregate.invoke [v'] greatest).result = .ok (.number n') ∧ n'.same n = true := by
  have hkey : SortKey.names.lookup (sorting.textD "by" "none") = some (some .numerical) := by
    rw [hby]
    rfl
  have hsorted := SortKey.numerical.stableSort_sortBy false v.items
  obtain ⟨first, last, hfirst, hlast, hleast, hgreatest⟩ := hsorted.extremes hitems hnumbers
  obtain ⟨m, hm, hmextreme⟩ := aggregate_invoke_extreme hmin rfl rfl Number.keeps_min hitems hnumbers
  obtain ⟨n, hn, hnextreme⟩ := aggregate_invoke_extreme hmax rfl rfl Number.keeps_max hitems hnumbers
  refine ⟨sortBy .numerical false v.items, first, last, m, n, ?_, hfirst, hlast, hm,
    hmextreme.same hleast Number.keeps_min, hn, hnextreme.same hgreatest Number.keeps_max,
    ⟨List.mem_map.1 hmextreme.mem, List.forall_mem_map.1 hmextreme.before⟩,
    ⟨List.mem_map.1 hnextreme.mem, List.forall_mem_map.1 hnextreme.before⟩, ?_⟩
  · rw [sortItems_invoke hvalid hkey, hascending]
  · intro v' hperm
    have hitems' : v'.items ≠ [] := by
      intro hnil
      rw [hnil] at hperm
      exact hitems (List.nil_perm.1 hperm)
    have hnumbers' : ∀ item ∈ v'.items, (itemNumber item).isNaN = false :=
      fun item hitem => hnumbers item (hperm.mem_iff.1 hitem)
    obtain ⟨m', hm', hmextreme'⟩ := aggregate_invoke_extreme hmin rfl rfl Number.keeps_min hitems' hnumbers'
    obtain ⟨n', hn', hnextreme'⟩ := aggregate_invoke_extreme hmax rfl rfl Number.keeps_max hitems' hnumbers'
    have hnumbersPerm := hperm.map itemNumber
    exact ⟨⟨m', hm', (hmextreme'.of_perm hnumbersPerm).same hmextreme Number.keeps_min⟩,
      ⟨n', hn', (hnextreme'.of_perm hnumbersPerm).same hnextreme Number.keeps_max⟩⟩

/-- The settings of a sort by numbers from the least. -/
def leastFirst : Config := .ofList [("by", .text "numerical")]

/-- The settings that ask for the least number. -/
def leastNumber : Config := .ofList [("op", .text "min")]

/-- The settings that ask for the greatest number. -/
def greatestNumber : Config := .ofList [("op", .text "max")]

/-- What is no number, a negative zero, an infinity and a truth value. -/
def mixedItems : Value := .list [.text "none", .number .negativeZero, .text "inf", .bool true]

/-- The fold keeps the zero that a text counts as, and the sort puts the negative zero in front. -/
theorem aggregate_extremes_eq_sorted_ends_mixed :
    sortItems.validate leastFirst = .ok () ∧ leastFirst.textD "by" "none" = "numerical" ∧
      leastFirst.asksDescending = false ∧ leastNumber.textD "op" "list" = "min" ∧
      greatestNumber.textD "op" "list" = "max" ∧ mixedItems.items ≠ [] ∧
      (∀ item ∈ mixedItems.items, (itemNumber item).isNaN = false) ∧
      (sortItems.invoke [mixedItems] leastFirst).result =
        .ok (.list [.number .negativeZero, .text "none", .bool true, .text "inf"]) ∧
      (aggregate.invoke [mixedItems] leastNumber).result = .ok (.number .zero) ∧
      Number.zero.same .negativeZero = true ∧
      (aggregate.invoke [mixedItems] greatestNumber).result = .ok (.number (.infinity false)) ∧
      (Number.infinity false).same (itemNumber (.text "inf")) = true := by
  have hvalid : sortItems.validate leastFirst = .ok () := rfl
  have hby : leastFirst.textD "by" "none" = "numerical" := rfl
  have hascending : leastFirst.asksDescending = false := rfl
  have hmin : leastNumber.textD "op" "list" = "min" := rfl
  have hmax : greatestNumber.textD "op" "list" = "max" := rfl
  have hitems : mixedItems.items ≠ [] := by decide
  have hnumbers : ∀ item ∈ mixedItems.items, (itemNumber item).isNaN = false := by decide +kernel
  have hresult : (sortItems.invoke [mixedItems] leastFirst).result =
      .ok (.list [.number .negativeZero, .text "none", .bool true, .text "inf"]) := by
    have hzeros : SortKey.numerical.le (.text "none") (.number .negativeZero) = false := by decide +kernel
    have hends : SortKey.numerical.le (.text "inf") (.bool true) = false := by decide +kernel
    have hnegative : SortKey.numerical.le (.number .negativeZero) (.bool true) = true := by decide +kernel
    have hpositive : SortKey.numerical.le (.text "none") (.bool true) = true := by decide +kernel
    rw [sortItems_invoke hvalid rfl, hascending]
    simp [sortBy, mixedItems, Value.items, List.mergeSort, hzeros, hends, hnegative, hpositive]
  have hleast : (aggregate.invoke [mixedItems] leastNumber).result = .ok (.number .zero) := by decide +kernel
  have hgreatest : (aggregate.invoke [mixedItems] greatestNumber).result = .ok (.number (.infinity false)) := by
    decide +kernel
  obtain ⟨sorted, first, last, m, n, hsorted, hfirst, hlast, hm, hmsame, hn, hnsame, -⟩ :=
    aggregate_extremes_eq_sorted_ends hvalid hby hascending hmin hmax hitems hnumbers
  obtain rfl := Value.list.inj (Except.ok.inj (hresult.symm.trans hsorted))
  obtain rfl := Option.some.inj hfirst
  obtain rfl := Option.some.inj hlast
  obtain rfl := Value.number.inj (Except.ok.inj (hleast.symm.trans hm))
  obtain rfl := Value.number.inj (Except.ok.inj (hgreatest.symm.trans hn))
  exact ⟨hvalid, hby, hascending, hmin, hmax, hitems, hnumbers, hresult, hleast, hmsame, hgreatest, hnsame⟩

end Dataflow

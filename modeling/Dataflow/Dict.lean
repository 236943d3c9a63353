/-!
Dictionaries: entries in ascending order of their text keys.

The order of keys is part of what users see, in listings, documents and stored bytes, so a dictionary is its
sorted list of entries. The order is that of code points. `insert` says what a write does to a look-up, and two
dictionaries with the same look-ups are equal (`ext_get?`).
-/

namespace Dataflow

universe u v

/-! ## Lists of entries -/

namespace Entries

variable {α : Type u}

/-- Ascending keys, none twice. -/
def Sorted (entries : List (String × α)) : Prop := entries.Pairwise fun a b => a.1 < b.1

/-- Writes an entry at its place, over one with the same key. -/
def insert (key : String) (value : α) : List (String × α) → List (String × α)
  | [] => [(key, value)]
  | (k, v) :: rest =>
    if key < k then (key, value) :: (k, v) :: rest
    else if key = k then (key, value) :: rest
    else (k, v) :: insert key value rest

/-- Writes entries one after the other; of two with the same key the later one stays. -/
def ofList (entries : List (String × α)) : List (String × α) :=
  entries.foldl (fun acc e => insert e.1 e.2 acc) []

theorem mem_insert {key k : String} {value v : α} {entries : List (String × α)}
    (h : (k, v) ∈ insert key value entries) : (k, v) = (key, value) ∨ (k, v) ∈ entries := by
  induction entries with
  | nil => simpa [insert] using h
  | cons e rest ih =>
    obtain ⟨k', v'⟩ := e
    simp only [insert] at h
    split at h
    · simpa using h
    · split at h
      · rcases List.mem_cons.1 h with h | h
        · exact .inl h
        · exact .inr (List.mem_cons_of_mem _ h)
      · rcases List.mem_cons.1 h with h | h
        · exact .inr (h ▸ List.mem_cons_self ..)
        · rcases ih h with h | h
          · exact .inl h
          · exact .inr (List.mem_cons_of_mem _ h)

theorem sorted_insert {key : String} {value : α} {entries : List (String × α)} (h : Sorted entries) :
    Sorted (insert key value entries) := by
  induction entries with
  | nil => simp [insert, Sorted]
  | cons e rest ih =>
    obtain ⟨k, v⟩ := e
    obtain ⟨hk, hrest⟩ := List.pairwise_cons.1 h
    simp only [insert]
    split
    · rename_i hlt
      refine List.pairwise_cons.2 ⟨fun b hb => ?_, h⟩
      rcases List.mem_cons.1 hb with hb | hb
      · exact hb ▸ hlt
      · exact String.lt_trans hlt (hk b hb)
    · split
      · rename_i heq
        exact List.pairwise_cons.2 ⟨fun b hb => heq ▸ hk b hb, hrest⟩
      · rename_i hnlt hne
        have hlt : k < key :=
          Decidable.byContradiction fun hn => hne (String.le_antisymm hn hnlt)
        refine List.pairwise_cons.2 ⟨fun b hb => ?_, ih hrest⟩
        obtain ⟨k', v'⟩ := b
        rcases mem_insert hb with hb | hb
        · rw [hb]; exact hlt
        · exact hk _ hb

theorem sorted_ofList (entries : List (String × α)) : Sorted (ofList entries) := by
  have general : ∀ (es acc : List (String × α)), Sorted acc →
      Sorted (es.foldl (fun acc e => insert e.1 e.2 acc) acc) := by
    intro es
    induction es with
    | nil => intro acc h; exact h
    | cons e es ih => intro acc h; exact ih _ (sorted_insert h)
  exact general entries [] List.Pairwise.nil

theorem lookup_insert (key k : String) (value : α) (entries : List (String × α)) :
    (insert key value entries).lookup k = if k = key then some value else entries.lookup k := by
  have here (rest : List (String × α)) :
      ((key, value) :: rest).lookup k = if k = key then some value else rest.lookup k := by
    by_cases h : k = key
    · simp [h]
    · have hb : (k == key) = false := by simpa using h
      simp [List.lookup_cons, hb, h]
  induction entries with
  | nil => exact here []
  | cons e rest ih =>
    obtain ⟨k', v'⟩ := e
    simp only [insert]
    split
    · exact here _
    · split
      · rename_i heq
        subst heq
        rw [here]
        by_cases h : k = key
        · simp [h]
        · have hb : (k == key) = false := by simpa using h
          simp [List.lookup_cons, hb, h]
      · rename_i hne
        by_cases h : k = key
        · subst h
          have hb : (k == k') = false := by simpa using hne
          simp [List.lookup_cons, hb, ih]
        · simp only [List.lookup_cons, ih, if_neg h]

/-- Of several entries with one key the last is found. -/
theorem lookup_ofList (key : String) (entries : List (String × α)) :
    (ofList entries).lookup key = entries.reverse.lookup key := by
  have general : ∀ (es acc : List (String × α)),
      (es.foldl (fun acc e => insert e.1 e.2 acc) acc).lookup key
        = (es.reverse.lookup key).or (acc.lookup key) := by
    intro es
    induction es with
    | nil => intro acc; simp
    | cons e es ih =>
      intro acc
      obtain ⟨k, v⟩ := e
      rw [List.foldl_cons, ih, lookup_insert, List.reverse_cons, List.lookup_append, Option.or_assoc]
      by_cases h : key = k
      · simp [h]
      · have hb : (key == k) = false := by simpa using h
        simp [List.lookup_cons, hb, h]
  have := general entries []
  rwa [List.lookup_nil, Option.or_none] at this

/-- Below the first key nothing is found. -/
theorem lookup_eq_none {key : String} {entries : List (String × α)} (h : ∀ e ∈ entries, key < e.1) :
    entries.lookup key = none := by
  refine List.lookup_eq_none_iff.2 fun e he => ?_
  simpa using fun heq : key = e.1 => String.lt_irrefl key (heq ▸ h e he)

/-- With ascending keys an entry is what its key is looked up to. -/
theorem mem_iff_lookup {key : String} {value : α} {entries : List (String × α)} (h : Sorted entries) :
    (key, value) ∈ entries ↔ entries.lookup key = some value := by
  induction entries with
  | nil => simp
  | cons e rest ih =>
    obtain ⟨k, v⟩ := e
    obtain ⟨hk, hrest⟩ := List.pairwise_cons.1 h
    rw [List.mem_cons, ih hrest, List.lookup_cons]
    by_cases hkey : key = k
    · subst hkey
      simp [lookup_eq_none hk, eq_comm]
    · have hb : (key == k) = false := by simpa using hkey
      simp [hb, hkey]

theorem ext_lookup {a b : List (String × α)} (ha : Sorted a) (hb : Sorted b)
    (h : ∀ key, a.lookup key = b.lookup key) : a = b := by
  induction a generalizing b with
  | nil =>
    cases b with
    | nil => rfl
    | cons e b =>
      obtain ⟨l, w⟩ := e
      simpa using h l
  | cons d a ih =>
    obtain ⟨k, v⟩ := d
    obtain ⟨hk, ha'⟩ := List.pairwise_cons.1 ha
    cases b with
    | nil => simpa using h k
    | cons e b =>
      obtain ⟨l, w⟩ := e
      obtain ⟨hl, hb'⟩ := List.pairwise_cons.1 hb
      -- The smaller of two different first keys would be found on its own side only.
      have hkl : ¬ k < l := fun hlt => by
        have hnone : ((l, w) :: b).lookup k = none := lookup_eq_none
          (List.forall_mem_cons.2 ⟨hlt, fun e he => String.lt_trans hlt (hl e he)⟩)
        have := h k
        rw [hnone] at this
        simp at this
      have hlk : ¬ l < k := fun hgt => by
        have hnone : ((k, v) :: a).lookup l = none := lookup_eq_none
          (List.forall_mem_cons.2 ⟨hgt, fun e he => String.lt_trans hgt (hk e he)⟩)
        have := h l
        rw [hnone] at this
        simp at this
      obtain rfl : k = l := String.le_antisymm hlk hkl
      obtain rfl : v = w := by simpa using h k
      refine congrArg _ (ih ha' hb' fun key => ?_)
      by_cases hkey : key = k
      · subst hkey
        rw [lookup_eq_none hk, lookup_eq_none hl]
      · have hne : (key == k) = false := by simpa using hkey
        simpa [List.lookup_cons, hne] using h key

end Entries

/-! ## Dictionaries -/

/-- A finite map from texts, listed in ascending order of keys. -/
structure Dict (α : Type u) where
  entries : List (String × α)
  sorted : Entries.Sorted entries
deriving DecidableEq

namespace Dict

variable {α : Type u} {β : Type v}

def empty : Dict α := ⟨[], List.Pairwise.nil⟩

instance : Inhabited (Dict α) := ⟨empty⟩

def get? (d : Dict α) (key : String) : Option α := d.entries.lookup key

def contains (d : Dict α) (key : String) : Bool := (d.get? key).isSome

def insert (d : Dict α) (key : String) (value : α) : Dict α :=
  ⟨Entries.insert key value d.entries, Entries.sorted_insert d.sorted⟩

/-- The last of several entries with one key stays. -/
def ofList (entries : List (String × α)) : Dict α := ⟨Entries.ofList entries, Entries.sorted_ofList entries⟩

def erase (d : Dict α) (key : String) : Dict α :=
  ⟨d.entries.filter fun e => e.1 != key, d.sorted.sublist List.filter_sublist⟩

/-- Keeps the keys and changes the values. -/
def mapValues (f : α → β) (d : Dict α) : Dict β :=
  ⟨d.entries.map fun e => (e.1, f e.2), by
    simpa [Entries.Sorted, List.pairwise_map] using d.sorted⟩

def keys (d : Dict α) : List String := d.entries.map (·.1)

def values (d : Dict α) : List α := d.entries.map (·.2)

def size (d : Dict α) : Nat := d.entries.length

def isEmpty (d : Dict α) : Bool := d.entries.isEmpty

@[simp] theorem get?_empty (key : String) : (empty : Dict α).get? key = none := rfl

/-- A write changes the look-up of its own key only. -/
@[simp] theorem get?_insert (d : Dict α) (key k : String) (value : α) :
    (d.insert key value).get? k = if k = key then some value else d.get? k :=
  Entries.lookup_insert key k value d.entries

/-- What is taken away is not looked up any more; the other keys keep their values. -/
@[simp] theorem get?_erase (d : Dict α) (key k : String) :
    (d.erase key).get? k = if k = key then none else d.get? k := by
  have general (entries : List (String × α)) :
      (entries.filter fun e => e.1 != key).lookup k = if k = key then none else entries.lookup k := by
    induction entries with
    | nil => simp
    | cons e rest ih =>
      obtain ⟨k', v⟩ := e
      by_cases hk' : k' = key
      · subst hk'
        rw [List.filter_cons_of_neg (by simp), ih]
        by_cases hk : k = k'
        · simp [hk]
        · have hb : (k == k') = false := by simpa using hk
          simp [hk, List.lookup_cons, hb]
      · rw [List.filter_cons_of_pos (by simpa using hk'), List.lookup_cons, List.lookup_cons, ih]
        by_cases hk : k = k'
        · subst hk
          simp [hk']
        · have hb : (k == k') = false := by simpa using hk
          simp [hb]
  exact general d.entries

@[simp] theorem get?_ofList (entries : List (String × α)) (key : String) :
    (ofList entries).get? key = entries.reverse.lookup key := Entries.lookup_ofList key entries

/-- A dictionary made from a list holds entries of the list only. -/
theorem mem_of_get?_ofList {entries : List (String × α)} {key : String} {value : α}
    (h : (ofList entries).get? key = some value) : (key, value) ∈ entries := by
  rw [get?_ofList] at h
  obtain ⟨front, back, hsplit, -⟩ := List.lookup_eq_some_iff.1 h
  have hmem : (key, value) ∈ entries.reverse := by rw [hsplit]; simp
  exact List.mem_reverse.1 hmem

/-- Where a list has no two values for a key, the dictionary made from it has the one that the list has. -/
theorem get?_ofList_of_mem {entries : List (String × α)} {key : String} {value : α}
    (hmem : (key, value) ∈ entries) (hone : ∀ v, (key, v) ∈ entries → v = value) :
    (ofList entries).get? key = some value := by
  cases h : (ofList entries).get? key with
  | some v => rw [hone v (mem_of_get?_ofList h)]
  | none =>
    rw [get?_ofList, List.lookup_eq_none_iff] at h
    simpa using h (key, value) (List.mem_reverse.2 hmem)

/-- A dictionary is what its look-ups say. -/
theorem ext_get? {d e : Dict α} (h : ∀ key, d.get? key = e.get? key) : d = e := by
  obtain ⟨_, hd⟩ := d
  obtain ⟨_, he⟩ := e
  cases Entries.ext_lookup hd he h
  rfl

/-- The last entry of a list is written last. -/
theorem ofList_concat (entries : List (String × α)) (key : String) (value : α) :
    ofList (entries ++ [(key, value)]) = (ofList entries).insert key value := by
  refine ext_get? fun k => ?_
  rw [get?_insert, get?_ofList, get?_ofList, List.reverse_append, List.reverse_singleton, List.singleton_append,
    List.lookup_cons]
  by_cases h : k = key
  · simp [h]
  · have hb : (k == key) = false := by simpa using h
    simp [hb, h]

/-- The entries are what is looked up. -/
theorem mem_entries_iff {d : Dict α} {key : String} {value : α} :
    (key, value) ∈ d.entries ↔ d.get? key = some value := Entries.mem_iff_lookup d.sorted

/-- Of several entries with one key the last counts. -/
theorem get?_ofList_eq_some_iff {entries : List (String × α)} {key : String} {value : α} :
    (ofList entries).get? key = some value ↔
      ∃ front back, entries = front ++ (key, value) :: back ∧ ∀ e ∈ back, e.1 ≠ key := by
  rw [get?_ofList, List.lookup_eq_some_iff]
  constructor
  · rintro ⟨later, earlier, hsplit, hnew⟩
    refine ⟨earlier.reverse, later.reverse, ?_, fun e he heq => ?_⟩
    · rw [List.reverse_eq_iff.1 hsplit]
      simp
    · simpa [heq] using hnew e (List.mem_reverse.1 he)
  · rintro ⟨front, back, rfl, hnew⟩
    refine ⟨back.reverse, front.reverse, by simp, fun e he => ?_⟩
    simpa using (hnew e (List.mem_reverse.1 he)).symm

/-- A dictionary is made again from its entries. -/
theorem ofList_entries (d : Dict α) : ofList d.entries = d := by
  refine ext_get? fun key => ?_
  cases h : d.get? key with
  | none =>
    rw [Option.eq_none_iff_forall_not_mem]
    intro value hvalue
    rw [mem_entries_iff.1 (mem_of_get?_ofList hvalue)] at h
    cases h
  | some value =>
    refine get?_ofList_of_mem (mem_entries_iff.2 h) fun v hv => ?_
    rw [mem_entries_iff.1 hv] at h
    exact Option.some.inj h

/-- One entry is one key with a value. -/
theorem entries_eq_singleton_iff {d : Dict α} {key : String} {value : α} :
    d.entries = [(key, value)] ↔ ∀ k, d.get? k = if k = key then some value else none := by
  have hone (k : String) : (empty.insert key value).get? k = if k = key then some value else none := by
    rw [get?_insert, get?_empty]
  constructor
  · intro h k
    rw [← hone, get?, get?, h]
    rfl
  · intro h
    have heq : d = empty.insert key value := ext_get? fun k => (h k).trans (hone k).symm
    rw [heq]
    rfl

end Dict

end Dataflow

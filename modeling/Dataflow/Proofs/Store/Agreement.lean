import Dataflow.Store
import Mathlib.Logic.Function.Basic
/-!
The two stores as one map.

A store is what it answers. The plain map from keys to bytes says what these answers should be (`Contents`): a key
holds what was saved under it last, unless it has been removed since. The store in memory is that map for all keys,
and a folder is for those that are plain names, provided that nothing gets in its way: names may have any length,
and no folders stand where files should (`Folder.Open`). So the two stores answer alike
(`ByteStore.folder_agrees_memory`).

What this rests on is that keys and file names go together: no two keys have one file, and no key has a file
elsewhere than in the folder itself (`Folder.IsPlainName`).
-/

set_option autoImplicit false

namespace Dataflow

/-! ## Calls -/

/-- What a store is asked for. -/
inductive StoreCall where
  | save (key : String) (bytes : Bytes)
  | load (key : String)
  | remove (key : String)

def StoreCall.key : StoreCall → String
  | .save key _ | .load key | .remove key => key

/-- What it answers to a call that does not fail. -/
inductive StoreReply where
  | saved
  | loaded (bytes : Option Bytes)
  /-- Whether there was anything to take away. -/
  | removed (found : Bool)
deriving DecidableEq

namespace ByteStore

variable {σ : Type} [ByteStore σ]

/-- The answer to a call, and the store after it. There is no new store after a call that fails. -/
def perform (s : σ) : StoreCall → Except StorageError StoreReply × σ
  | .save key bytes =>
    match save s key bytes with
    | .ok t => (.ok .saved, t)
    | .error error => (.error error, s)
  | .load key => ((load s key).map .loaded, s)
  | .remove key =>
    match remove s key with
    | .ok (found, t) => (.ok (.removed found), t)
    | .error error => (.error error, s)

/-- The answers to calls one after the other, each with its call, and the store after them. -/
def performAll (s : σ) : List StoreCall → List (StoreCall × Except StorageError StoreReply) × σ
  | [] => ([], s)
  | c :: cs =>
    let (answers, t) := performAll (perform s c).2 cs
    ((c, (perform s c).1) :: answers, t)

end ByteStore

/-! ## The plain map -/

/-- What is held under each key. -/
abbrev Contents := String → Option Bytes

namespace Contents

def perform (held : Contents) : StoreCall → StoreReply × Contents
  | .save key bytes => (.saved, Function.update held key (some bytes))
  | .load key => (.loaded (held key), held)
  | .remove key => (.removed (held key).isSome, Function.update held key none)

def performAll (held : Contents) : List StoreCall → List (StoreCall × Except StorageError StoreReply) × Contents
  | [] => ([], held)
  | c :: cs =>
    let (answers, left) := performAll (held.perform c).2 cs
    ((c, .ok (held.perform c).1) :: answers, left)

end Contents

/-! ## Memory -/

namespace MemoryStore

def contents (m : MemoryStore) : Contents := m.entries.get?

/-- A call to the store in memory is a call to the map. -/
theorem perform_eq (m : MemoryStore) (c : StoreCall) :
    (ByteStore.perform m c).1 = .ok (m.contents.perform c).1 ∧
      (ByteStore.perform m c).2.contents = (m.contents.perform c).2 := by
  cases c with
  | save key bytes =>
    refine ⟨rfl, ?_⟩
    funext k
    exact (Dict.get?_insert m.entries key k bytes).trans (Function.update_apply ..).symm
  | load key => exact ⟨rfl, rfl⟩
  | remove key =>
    refine ⟨rfl, ?_⟩
    funext k
    exact (Dict.get?_erase m.entries key k).trans (Function.update_apply ..).symm

theorem performAll_eq (m : MemoryStore) (cs : List StoreCall) :
    (ByteStore.performAll m cs).1 = (m.contents.performAll cs).1 := by
  induction cs generalizing m with
  | nil => rfl
  | cons c cs ih =>
    obtain ⟨hanswer, hcontents⟩ := perform_eq m c
    simp only [ByteStore.performAll, Contents.performAll, ih, hanswer, hcontents]

/-- A call is about its own key. -/
theorem load_perform_of_ne (m : MemoryStore) {c : StoreCall} {key : String} (h : key ≠ c.key) :
    ByteStore.load (ByteStore.perform m c).2 key = ByteStore.load m key := by
  have hcontents : (ByteStore.perform m c).2.contents key = m.contents key := by
    rw [(perform_eq m c).2]
    cases c with
    | save k bytes => exact Function.update_of_ne h _ _
    | load k => rfl
    | remove k => exact Function.update_of_ne h _ _
  exact congrArg Except.ok hcontents

end MemoryStore

/-! ## Keys and file names -/

namespace Folder

/-- What is a key for a folder: a text that is not empty, does not start with a point and is made of ASCII letters,
digits, hyphens, underscores and points. -/
structure ValidKey (key : String) : Prop where
  nonempty : key ≠ ""
  shown : key.toList.head? ≠ some '.'
  chars : ∀ c ∈ key.toList, ('A' ≤ c ∧ c ≤ 'Z') ∨ ('a' ≤ c ∧ c ≤ 'z') ∨ ('0' ≤ c ∧ c ≤ '9') ∨
    c = '-' ∨ c = '_' ∨ c = '.'

/-- A name that stands for one step of a path, down into something: no separator is in it, and it is neither of the
two names that stand for the folder itself and for the one above it. -/
structure IsPlainName (name : String) : Prop where
  nonempty : name ≠ ""
  separators : '/' ∉ name.toList ∧ '\\' ∉ name.toList
  ne_here : name ≠ "."
  ne_above : name ≠ ".."

theorem isKeyChar_iff {c : Char} : isKeyChar c = true ↔ ('A' ≤ c ∧ c ≤ 'Z') ∨ ('a' ≤ c ∧ c ≤ 'z') ∨
    ('0' ≤ c ∧ c ≤ '9') ∨ c = '-' ∨ c = '_' ∨ c = '.' := by
  have hupper : c.isUpper = true ↔ 'A' ≤ c ∧ c ≤ 'Z' := decide_eq_true_iff
  have hlower : c.isLower = true ↔ 'a' ≤ c ∧ c ≤ 'z' :=
    Bool.and_eq_true_iff.trans (and_congr decide_eq_true_iff decide_eq_true_iff)
  have hdigit : c.isDigit = true ↔ '0' ≤ c ∧ c ≤ '9' :=
    Bool.and_eq_true_iff.trans (and_congr decide_eq_true_iff decide_eq_true_iff)
  have halphanum : c.isAlphanum = ((c.isUpper || c.isLower) || c.isDigit) := rfl
  unfold isKeyChar
  simp only [halphanum, Bool.or_eq_true, hupper, hlower, hdigit, beq_iff_eq, or_assoc]

theorem isKey_iff {key : String} : isKey key = true ↔ ValidKey key := by
  have hempty : key.toList.isEmpty = true ↔ key = "" := by
    rw [List.isEmpty_iff, String.toList_eq_nil_iff]
  constructor
  · intro h
    simp only [isKey, Bool.and_eq_true, Bool.not_eq_true', bne_iff_ne, List.all_eq_true, isKeyChar_iff] at h
    obtain ⟨⟨hkey, hshown⟩, hchars⟩ := h
    refine ⟨fun heq => ?_, hshown, hchars⟩
    rw [hempty.2 heq] at hkey
    cases hkey
  · rintro ⟨hkey, hshown, hchars⟩
    simp only [isKey, Bool.and_eq_true, Bool.not_eq_true', bne_iff_ne, List.all_eq_true, isKeyChar_iff]
    exact ⟨⟨by rw [← Bool.not_eq_true, hempty]; exact hkey, hshown⟩, hchars⟩

instance (key : String) : Decidable (ValidKey key) := decidable_of_iff _ isKey_iff

/-- No two keys have one file. -/
theorem fileName_injective : Function.Injective fileName := by
  intro key other h
  exact (String.append_left_inj ".bin").1 h

theorem fileName_toList (key : String) : (fileName key).toList = key.toList ++ ['.', 'b', 'i', 'n'] := by
  rw [fileName, String.toList_append]
  rfl

/-- The file of a key is in the folder itself. -/
theorem ValidKey.isPlainName {key : String} (h : ValidKey key) : IsPlainName (fileName key) := by
  -- With its ending the name is longer than the two that stand for folders.
  have hlength : 4 ≤ (fileName key).toList.length := by
    rw [fileName_toList, List.length_append]
    simp
  have hchars : ∀ c ∈ (fileName key).toList, isKeyChar c = true := by
    intro c hc
    rw [fileName_toList, List.mem_append] at hc
    rcases hc with hc | hc
    · exact isKeyChar_iff.2 (h.chars c hc)
    · have hbin : ['.', 'b', 'i', 'n'].all isKeyChar = true := by decide
      exact List.all_eq_true.1 hbin c hc
  have hshort {name : String} (hname : name.toList.length < 4) : fileName key ≠ name := by
    intro heq
    rw [heq] at hlength
    omega
  refine ⟨hshort (by decide), ⟨?_, ?_⟩, hshort (by decide), hshort (by decide)⟩
  · intro hmem
    exact absurd (hchars _ hmem) (by decide)
  · intro hmem
    exact absurd (hchars _ hmem) (by decide)

theorem fileName?_eq {f : Folder} {key name : String} (h : f.fileName? key = .ok name) : name = fileName key := by
  rw [fileName?] at h
  split at h
  · cases h
  · split at h
    · cases h
    · exact (Except.ok.inj h).symm

/-- A call with a key that has no file leaves the folder alone. -/
theorem perform_of_error {f : Folder} {c : StoreCall} {error : StorageError} (h : f.fileName? c.key = .error error) :
    ByteStore.perform f c = (.error error, f) := by
  cases c with
  | save key bytes | load key | remove key =>
    rw [StoreCall.key] at h
    simp only [ByteStore.perform, ByteStore.save, ByteStore.load, ByteStore.remove, h, bind, Except.bind, Except.map]

/-- What is no key is refused, whatever is asked and whatever there is. -/
theorem perform_of_not_validKey (f : Folder) {c : StoreCall} (h : ¬ ValidKey c.key) :
    ByteStore.perform f c = (.error (.invalidKey c.key), f) := by
  have hkey : isKey c.key = false := by rwa [← Bool.not_eq_true, isKey_iff]
  refine perform_of_error ?_
  simp [fileName?, hkey]

/-- What a call does to a folder: it writes or takes away the file of its key, or leaves everything as it is. -/
theorem perform_cases (f : Folder) (c : StoreCall) : (ByteStore.perform f c).2 = f ∨
    (∃ bytes, (ByteStore.perform f c).2 = { f with entries := f.entries.insert (fileName c.key) (.file bytes) }) ∨
    (ByteStore.perform f c).2 = { f with entries := f.entries.erase (fileName c.key) } := by
  cases hname : f.fileName? c.key with
  | error error =>
    left
    rw [perform_of_error hname]
  | ok name =>
    obtain rfl := fileName?_eq hname
    cases c with
    | save key bytes =>
      rw [StoreCall.key] at hname ⊢
      simp only [ByteStore.perform, ByteStore.save, hname, bind, Except.bind]
      cases hentry : f.entries.get? (fileName key) with
      | none => exact .inr (.inl ⟨bytes, rfl⟩)
      | some entry =>
        cases entry with
        | folder => exact .inl rfl
        | file old => exact .inr (.inl ⟨bytes, rfl⟩)
    | load key => exact .inl rfl
    | remove key =>
      rw [StoreCall.key] at hname ⊢
      simp only [ByteStore.perform, ByteStore.remove, hname, bind, Except.bind]
      cases hentry : f.entries.get? (fileName key) with
      | none => exact .inl rfl
      | some entry =>
        cases entry with
        | folder => exact .inl rfl
        | file old => exact .inr (.inr rfl)

/-- What is found under a key goes by the entry of its file. -/
theorem load_congr {f g : Folder} {key : String} (hlimit : g.nameLimit = f.nameLimit)
    (hentry : g.entries.get? (fileName key) = f.entries.get? (fileName key)) :
    ByteStore.load g key = ByteStore.load f key := by
  have hname : g.fileName? key = f.fileName? key := by rw [fileName?, fileName?, hlimit]
  simp only [ByteStore.load, hname, bind, Except.bind]
  cases hf : f.fileName? key with
  | error error => rfl
  | ok name =>
    obtain rfl := fileName?_eq hf
    simp only [hentry]

/-- **A call is about its own key.** What is under the others stays there. -/
theorem load_perform_of_ne (f : Folder) {c : StoreCall} {key : String} (h : key ≠ c.key) :
    ByteStore.load (ByteStore.perform f c).2 key = ByteStore.load f key := by
  have hname : fileName key ≠ fileName c.key := fun heq => h (fileName_injective heq)
  rcases perform_cases f c with hsame | ⟨bytes, hwritten⟩ | hgone
  · rw [hsame]
  · rw [hwritten]
    refine load_congr rfl ?_
    rw [Dict.get?_insert, if_neg hname]
  · rw [hgone]
    refine load_congr rfl ?_
    rw [Dict.get?_erase, if_neg hname]

/-! ## A folder that nothing gets in the way of -/

/-- Names may have any length, and there are files only. -/
structure Open (f : Folder) : Prop where
  unlimited : f.nameLimit = none
  files : ∀ name, f.entries.get? name ≠ some .folder

/-- An empty folder that takes names of any length. -/
def empty : Folder where
  nameLimit := none

theorem open_empty : empty.Open where
  unlimited := rfl
  files _ := nofun

def contents (f : Folder) : Contents := fun key =>
  match f.entries.get? (fileName key) with
  | some (.file bytes) => some bytes
  | some .folder | none => none

theorem contents_insert (f : Folder) (key : String) (bytes : Bytes) :
    contents { f with entries := f.entries.insert (fileName key) (.file bytes) } =
      Function.update f.contents key (some bytes) := by
  funext k
  by_cases hk : k = key
  · subst hk
    simp [contents]
  · have hname : fileName k ≠ fileName key := fun heq => hk (fileName_injective heq)
    simp [contents, hk, hname]

theorem contents_erase (f : Folder) (key : String) :
    contents { f with entries := f.entries.erase (fileName key) } = Function.update f.contents key none := by
  funext k
  by_cases hk : k = key
  · subst hk
    simp [contents]
  · have hname : fileName k ≠ fileName key := fun heq => hk (fileName_injective heq)
    simp [contents, hk, hname]

/-- Calls put no folders into a folder. -/
theorem Open.perform {f : Folder} (hf : f.Open) (c : StoreCall) : (ByteStore.perform f c).2.Open := by
  rcases perform_cases f c with hsame | ⟨bytes, hwritten⟩ | hgone
  · rw [hsame]
    exact hf
  · rw [hwritten]
    refine ⟨hf.unlimited, ?_⟩
    intro name
    rw [Dict.get?_insert]
    split
    · simp
    · exact hf.files name
  · rw [hgone]
    refine ⟨hf.unlimited, ?_⟩
    intro name
    rw [Dict.get?_erase]
    split
    · simp
    · exact hf.files name

/-- A call with a key to an open folder is a call to the map. -/
theorem Open.perform_eq {f : Folder} (hf : f.Open) {c : StoreCall} (hc : ValidKey c.key) :
    (ByteStore.perform f c).1 = .ok (f.contents.perform c).1 ∧
      (ByteStore.perform f c).2.contents = (f.contents.perform c).2 := by
  have hname : f.fileName? c.key = .ok (fileName c.key) := by
    simp [fileName?, isKey_iff.2 hc, hf.unlimited]
  cases c with
  | save key bytes =>
    rw [StoreCall.key] at hname
    have hsave : ByteStore.save f key bytes =
        .ok { f with entries := f.entries.insert (fileName key) (.file bytes) } := by
      simp only [ByteStore.save, hname, bind, Except.bind]
      cases hentry : f.entries.get? (fileName key) with
      | none => rfl
      | some entry =>
        cases entry with
        | folder => exact absurd hentry (hf.files _)
        | file old => rfl
    simp only [ByteStore.perform, hsave, Contents.perform, contents_insert]
    exact ⟨trivial, trivial⟩
  | load key =>
    rw [StoreCall.key] at hname
    have hload : ByteStore.load f key = .ok (f.contents key) := by
      simp only [ByteStore.load, hname, bind, Except.bind, contents]
      cases hentry : f.entries.get? (fileName key) with
      | none => rfl
      | some entry =>
        cases entry with
        | folder => exact absurd hentry (hf.files _)
        | file bytes => rfl
    simp only [ByteStore.perform, hload, Contents.perform]
    exact ⟨rfl, trivial⟩
  | remove key =>
    rw [StoreCall.key] at hname
    simp only [ByteStore.perform, ByteStore.remove, hname, bind, Except.bind, Contents.perform]
    cases hentry : f.entries.get? (fileName key) with
    | none =>
      -- Nothing is taken away, and in the map there is nothing under the key either.
      have hheld : f.contents key = none := by simp only [contents, hentry]
      simp only [hheld]
      refine ⟨rfl, ?_⟩
      exact (Function.update_eq_self_iff.2 hheld.symm).symm
    | some entry =>
      cases entry with
      | folder => exact absurd hentry (hf.files _)
      | file bytes =>
        have hheld : f.contents key = some bytes := by simp only [contents, hentry]
        simp only [hheld]
        exact ⟨rfl, contents_erase f key⟩

/-- Calls with keys to an open folder are calls to the map. -/
theorem Open.performAll_eq {f : Folder} (hf : f.Open) {cs : List StoreCall} (hcs : ∀ c ∈ cs, ValidKey c.key) :
    (ByteStore.performAll f cs).1 = (f.contents.performAll cs).1 := by
  induction cs generalizing f with
  | nil => rfl
  | cons c cs ih =>
    obtain ⟨hc, hrest⟩ := List.forall_mem_cons.1 hcs
    obtain ⟨hanswer, hcontents⟩ := hf.perform_eq hc
    simp only [ByteStore.performAll, Contents.performAll, ih (hf.perform c) hrest, hanswer, hcontents]

/-- Calls without a key are refused and leave no trace: the others are answered as if these were not there. -/
theorem performAll_filter (f : Folder) (cs : List StoreCall) :
    (∀ e ∈ (ByteStore.performAll f cs).1, ¬ ValidKey e.1.key → e.2 = .error (.invalidKey e.1.key)) ∧
      (ByteStore.performAll f cs).1.filter (ValidKey ·.1.key) =
        (ByteStore.performAll f (cs.filter (ValidKey ·.key))).1 ∧
      (ByteStore.performAll f cs).2 = (ByteStore.performAll f (cs.filter (ValidKey ·.key))).2 := by
  induction cs generalizing f with
  | nil => exact ⟨by simp [ByteStore.performAll], rfl, rfl⟩
  | cons c cs ih =>
    obtain ⟨hrefused, hanswers, hleft⟩ := ih (ByteStore.perform f c).2
    by_cases hc : ValidKey c.key
    · rw [List.filter_cons_of_pos (by simpa using hc)]
      simp only [ByteStore.performAll]
      refine ⟨?_, ?_, hleft⟩
      · intro e he
        rcases List.mem_cons.1 he with rfl | he
        · exact fun hkey => absurd hc hkey
        · exact hrefused e he
      · rw [List.filter_cons_of_pos (by simpa using hc), hanswers]
    · -- The folder is the same behind the call, so the rest goes on from it as if the call were not there.
      have hsame : ByteStore.perform f c = (.error (.invalidKey c.key), f) := perform_of_not_validKey f hc
      rw [hsame] at hrefused hanswers hleft
      rw [List.filter_cons_of_neg (by simpa using hc)]
      simp only [ByteStore.performAll, hsame]
      refine ⟨?_, ?_, hleft⟩
      · intro e he
        rcases List.mem_cons.1 he with rfl | he
        · exact fun _ => rfl
        · exact hrefused e he
      · rw [List.filter_cons_of_neg (by simpa using hc), hanswers]

end Folder

/-! ## The agreement -/

namespace ByteStore

/-- To calls with keys an empty folder gives the answers of the plain map, and those of the store in memory. -/
theorem performAll_folder_eq {cs : List StoreCall} (hcs : ∀ c ∈ cs, Folder.ValidKey c.key) :
    (performAll Folder.empty cs).1 = (performAll ({} : MemoryStore) cs).1 := by
  rw [Folder.open_empty.performAll_eq hcs, MemoryStore.performAll_eq]
  rfl

/-- **A folder and the store in memory are one map.** Both start empty, and nothing gets in the way of the folder.

To calls with keys they give the same answers, those of the plain map. Of a sequence with other calls among them the
folder refuses each of these and is left as it was by it, and it answers the rest as the store in memory answers the
rest alone. A call changes nothing about what is found under other keys, in whatever state a store may be. And keys
have files of their own, directly in the folder. -/
theorem folder_agrees_memory :
    (∀ cs : List StoreCall, (∀ c ∈ cs, Folder.ValidKey c.key) →
      (performAll Folder.empty cs).1 = (performAll ({} : MemoryStore) cs).1 ∧
        (performAll ({} : MemoryStore) cs).1 = (Contents.performAll (fun _ => none) cs).1) ∧
    (∀ cs : List StoreCall,
      (∀ e ∈ (performAll Folder.empty cs).1, ¬ Folder.ValidKey e.1.key → e.2 = .error (.invalidKey e.1.key)) ∧
        (performAll Folder.empty cs).1.filter (Folder.ValidKey ·.1.key) =
          (performAll ({} : MemoryStore) (cs.filter (Folder.ValidKey ·.key))).1 ∧
        (performAll Folder.empty cs).2 = (performAll Folder.empty (cs.filter (Folder.ValidKey ·.key))).2) ∧
    (∀ (f : Folder) (c : StoreCall), ¬ Folder.ValidKey c.key → perform f c = (.error (.invalidKey c.key), f)) ∧
    (∀ (c : StoreCall) (key : String), key ≠ c.key →
      (∀ f : Folder, load (perform f c).2 key = load f key) ∧
        ∀ m : MemoryStore, load (perform m c).2 key = load m key) ∧
    (∀ key other : String, Folder.ValidKey key → Folder.ValidKey other → key ≠ other →
      Folder.fileName key ≠ Folder.fileName other) ∧
    ∀ key : String, Folder.ValidKey key → Folder.IsPlainName (Folder.fileName key) := by
  refine ⟨?_, ?_, fun f c => Folder.perform_of_not_validKey f, ?_, ?_, fun key => Folder.ValidKey.isPlainName⟩
  · intro cs hcs
    exact ⟨performAll_folder_eq hcs, MemoryStore.performAll_eq {} cs⟩
  · intro cs
    obtain ⟨hrefused, hanswers, hleft⟩ := Folder.performAll_filter Folder.empty cs
    refine ⟨hrefused, hanswers.trans (performAll_folder_eq ?_), hleft⟩
    intro c hc
    simpa using (List.mem_filter.1 hc).2
  · intro c key hkey
    exact ⟨fun f => Folder.load_perform_of_ne f hkey, fun m => MemoryStore.load_perform_of_ne m hkey⟩
  · intro key other _ _ hne heq
    exact hne (Folder.fileName_injective heq)

/-- Two keys of which one is the name of the file of the other. -/
def dottedCalls : List StoreCall :=
  [.save "a" [1], .save "a.bin" [2], .load "a", .remove "a.bin", .load "a.bin", .load "a"]

theorem folder_agrees_memory_dotted : (∀ c ∈ dottedCalls, Folder.ValidKey c.key) ∧
    (performAll Folder.empty dottedCalls).1.map (·.2) =
      [.ok .saved, .ok .saved, .ok (.loaded (some [1])), .ok (.removed true), .ok (.loaded none),
        .ok (.loaded (some [1]))] ∧
    ¬ Folder.ValidKey "../a" ∧
    perform Folder.empty (.load "../a") = (.error (.invalidKey "../a"), Folder.empty) := by
  have hkeys : ∀ c ∈ dottedCalls, Folder.ValidKey c.key := by decide
  have hother : ¬ Folder.ValidKey "../a" := by decide
  obtain ⟨hagree, -, hrefused, -⟩ := folder_agrees_memory
  refine ⟨hkeys, ?_, hother, hrefused Folder.empty (.load "../a") hother⟩
  rw [(hagree dottedCalls hkeys).1]
  rfl

end ByteStore

end Dataflow

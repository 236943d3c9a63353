import Dataflow.Bytes.Basic
import Mathlib.Algebra.Group.Nat.Defs
import Mathlib.Tactic.SplitIfs
/-!
What a decoder takes from the front of bytes.

A decoder that follows an encoder is asked for one thing: of bytes that begin with what was written of a value, it
takes just that and makes the value of it, whatever comes behind (`Decoder.Reads`). Put this way the statement goes
along with the way decoders are put together, so every element of the stored form has it from its parts. The limits
are those of the form: a number has at most eight bytes, and lengths are numbers.
-/

set_option autoImplicit false

namespace Dataflow

/-- The first number that has no form, `2^64`. -/
abbrev countLimit : Nat := 0x10000000000000000

namespace Decoder

variable {α β : Type}

/-- Of bytes that begin with `bytes` the decoder takes these and no others, and makes `x` of them. -/
def Reads (d : Decoder α) (bytes : Bytes) (x : α) : Prop := ∀ rest, d.run (bytes ++ rest) = some (x, rest)

/-! ## Decoders put together -/

namespace Reads

theorem pure (x : α) : Reads (Pure.pure x) [] x := fun _ => rfl

/-- One decoder after the other takes the one form after the other. -/
theorem bind {d : Decoder α} {f : α → Decoder β} {bytes more : Bytes} {x : α} {y : β} (h : d.Reads bytes x)
    (hf : (f x).Reads more y) : (d >>= f).Reads (bytes ++ more) y := by
  intro rest
  rw [StateT.run_bind, List.append_assoc, h]
  exact hf rest

/-- What is left to do may take no bytes. -/
theorem last {d : Decoder α} {f : α → Decoder β} {bytes : Bytes} {x : α} {y : β} (h : d.Reads bytes x)
    (hf : (f x).Reads [] y) : (d >>= f).Reads bytes y := by
  have hboth := h.bind hf
  rw [List.append_nil] at hboth
  exact hboth

theorem map {d : Decoder α} {bytes : Bytes} {x : α} (f : α → β) (h : d.Reads bytes x) :
    (f <$> d).Reads bytes (f x) := by
  intro rest
  rw [StateT.run_map, h]
  rfl

/-- Two values with the same form are the same, and so they are where one form begins the other. -/
theorem eq_of_append {d : Decoder α} {bytes more rest : Bytes} {x y : α} (hx : d.Reads bytes x)
    (hy : d.Reads more y) (h : bytes = more ++ rest) : x = y := by
  have hread := hy rest
  rw [← h, ← List.append_nil bytes, hx] at hread
  exact (Prod.mk.inj (Option.some.inj hread)).1

end Reads

/-! ## Numbers -/

theorem reads_byte (b : UInt8) : byte.Reads [b] b := fun _ => rfl

theorem reads_littleEndian {width n : Nat} (h : n < 256 ^ width) :
    (littleEndian width).Reads (Bytes.littleEndian width n) n := by
  induction width generalizing n with
  | zero =>
    obtain rfl : n = 0 := by simpa using h
    exact .pure 0
  | succ width ih =>
    have hhigh : n / 256 < 256 ^ width := by
      rw [Nat.pow_succ'] at h
      exact Nat.div_lt_of_lt_mul h
    have hvalue : (UInt8.ofNat n).toNat + 256 * (n / 256) = n := by
      rw [UInt8.toNat_ofNat']
      exact Nat.mod_add_div n 256
    have hread : (littleEndian (width + 1)).Reads ([UInt8.ofNat n] ++ Bytes.littleEndian width (n / 256))
        ((UInt8.ofNat n).toNat + 256 * (n / 256)) := (reads_byte _).bind ((ih hhigh).last (.pure _))
    rw [hvalue] at hread
    exact hread

/-- A small number is its own byte. -/
theorem reads_varint_small {widest n : Nat} (h : n ≤ 250) : (varint widest).Reads [UInt8.ofNat n] n := by
  have hvalue : (UInt8.ofNat n).toNat = n := by
    rw [UInt8.toNat_ofNat']
    omega
  have hrest : (if (UInt8.ofNat n).toNat ≤ 250 then Pure.pure (UInt8.ofNat n).toNat
      else
        let width := Nat.pow 2 ((UInt8.ofNat n).toNat - 250)
        if width ≤ widest then littleEndian width else failure : Decoder Nat).Reads [] n := by
    rw [hvalue, if_pos h]
    exact .pure n
  exact (reads_byte _).last hrest

/-- A marker announces the width of the number behind it. -/
theorem reads_varint_marked {widest width n : Nat} {marker : UInt8} (hmarker : 250 < marker.toNat)
    (hwidth : Nat.pow 2 (marker.toNat - 250) = width) (hwidest : width ≤ widest) (h : n < 256 ^ width) :
    (varint widest).Reads (marker :: Bytes.littleEndian width n) n := by
  have hrest : (if marker.toNat ≤ 250 then Pure.pure marker.toNat
      else
        let width := Nat.pow 2 (marker.toNat - 250)
        if width ≤ widest then littleEndian width else failure : Decoder Nat).Reads
          (Bytes.littleEndian width n) n := by
    rw [if_neg (by omega), hwidth, if_pos hwidest]
    exact reads_littleEndian h
  exact (reads_byte marker).bind hrest

theorem reads_nat {n : Nat} (h : n < countLimit) : nat.Reads (Bytes.ofNat n) n := by
  rw [Bytes.ofNat]
  split_ifs with hone htwo hfour
  · exact reads_varint_small hone
  · exact reads_varint_marked (by decide) (by decide) (by decide) (by omega)
  · exact reads_varint_marked (by decide) (by decide) (by decide) (by omega)
  · exact reads_varint_marked (by decide) (by decide) (by decide) (by omega)

/-- Of the few alternatives there are anywhere, each is known by one byte. -/
theorem reads_alternative {n : Nat} (h : n ≤ 250) : alternative.Reads [UInt8.ofNat n] n := reads_varint_small h

/-! ## Texts -/

theorem reads_bytes (front : Bytes) : (bytes front.length).Reads front front := by
  induction front with
  | nil => exact .pure []
  | cons b front ih =>
    exact (reads_byte b).bind (ih.last (.pure _))

/-- The UTF-8 form of a text is that of no other. -/
theorem fromUTF8?_toUTF8 (s : String) : String.fromUTF8? s.toUTF8 = some s := by
  rw [String.fromUTF8?, String.toUTF8_eq_toByteArray, dif_pos s.isValidUTF8]
  rfl

theorem reads_text {s : String} (h : s.utf8ByteSize < countLimit) : text.Reads (Bytes.ofText s) s := by
  have hlength : s.toUTF8.data.toList.length < countLimit := h
  unfold text
  refine (reads_nat hlength).bind ((reads_bytes _).last ?_)
  rw [Array.toArray_toList, fromUTF8?_toUTF8]
  exact .pure s

/-! ## Choices, lists and dictionaries -/

theorem reads_bool (b : Bool) : bool.Reads (Bytes.ofBool b) b := by
  cases b <;> exact fun _ => rfl

theorem reads_option {d : Decoder α} {item : α → Bytes} {x : Option α}
    (h : ∀ y, x = some y → d.Reads (item y) y) : (option d).Reads (Bytes.ofOption item x) x := by
  cases x with
  | none => exact (reads_byte 0).bind (.pure none)
  | some y => exact (reads_byte 1).bind ((h y rfl).map some)

theorem reads_times {d : Decoder α} {item : α → Bytes} {items : List α} (h : ∀ x ∈ items, d.Reads (item x) x) :
    (times d items.length).Reads (items.flatMap item) items := by
  induction items with
  | nil => exact .pure []
  | cons x items ih =>
    obtain ⟨hx, hitems⟩ := List.forall_mem_cons.1 h
    exact hx.bind ((ih hitems).last (.pure _))

theorem reads_list {d : Decoder α} {item : α → Bytes} {items : List α} (hlength : items.length < countLimit)
    (h : ∀ x ∈ items, d.Reads (item x) x) : (list d).Reads (Bytes.ofList item items) items :=
  (reads_nat hlength).bind (reads_times h)

/-- The entries of a dictionary, each as its key and its value. -/
theorem reads_entries {d : Decoder α} {item : α → Bytes} {entries : List (String × α)}
    (hlength : entries.length < countLimit)
    (h : ∀ e ∈ entries, e.1.utf8ByteSize < countLimit ∧ d.Reads (item e.2) e.2) :
    (list (do return (← text, ← d))).Reads
      (Bytes.ofList (fun e : String × α => Bytes.ofText e.1 ++ item e.2) entries) entries := by
  refine reads_list hlength fun e he => ?_
  obtain ⟨hkey, hvalue⟩ := h e he
  exact (reads_text hkey).bind (hvalue.last (.pure _))

/-- The entries of a dictionary come in the order that they have in it. -/
theorem reads_dict {d : Decoder α} {item : α → Bytes} {x : Dict α} (hlength : x.entries.length < countLimit)
    (h : ∀ e ∈ x.entries, e.1.utf8ByteSize < countLimit ∧ d.Reads (item e.2) e.2) :
    (dict d).Reads (Bytes.ofDict item x) x := by
  have hread := (reads_entries hlength h).map Dict.ofList
  rw [Dict.ofList_entries] at hread
  exact hread

end Decoder

end Dataflow

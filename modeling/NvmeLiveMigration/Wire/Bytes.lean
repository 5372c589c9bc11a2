import Mathlib

/-! Wire bytes of the live-migration structures. Every multi-byte field on the wire is little
endian; the host reads a field with a plain load in its own byte order, and `leN_to_cpu`
converts such a load back to the wire value. -/

namespace Lm

/-- Byte order of the host the plugin runs on. -/
inductive ByteOrder
  | little
  | big
  deriving DecidableEq, Repr

/-- The `n` bytes of the buffer `mem` from offset `off`. -/
def bytesAt (mem : Nat → UInt8) : Nat → Nat → List UInt8
  | _, 0 => []
  | off, n + 1 => mem off :: bytesAt mem (off + 1) n

def leValue : List UInt8 → Nat
  | [] => 0
  | b :: bs => b.toNat + 256 * leValue bs

def leBytes : Nat → Nat → List UInt8
  | 0, _ => []
  | w + 1, x => UInt8.ofNat (x % 256) :: leBytes w (x / 256)

namespace ByteOrder

/-- The value a plain load of a field with bytes `bs` gives on this host. -/
def native : ByteOrder → List UInt8 → Nat
  | little, bs => leValue bs
  | big, bs => leValue bs.reverse

/-- `leN_to_cpu` for a field of `w` bytes: the identity on a little-endian host, a byte swap on
a big-endian one. -/
def leToCpu : ByteOrder → Nat → Nat → Nat
  | little, _, x => x
  | big, w, x => leValue (leBytes w x).reverse

/-- `p->field`, a plain load of the `w`-byte field at `off`. -/
def load (host : ByteOrder) (mem : Nat → UInt8) (off w : Nat) : Nat :=
  host.native (bytesAt mem off w)

/-- `leN_to_cpu(p->field)`. -/
def loadLe (host : ByteOrder) (mem : Nat → UInt8) (off w : Nat) : Nat :=
  host.leToCpu w (host.load mem off w)

end ByteOrder

/-- `f` reads no byte of its buffer at or beyond `len`: buffers that agree below `len` give the
same result. -/
def ReadsBelow {α : Type} (len : Nat) (f : (Nat → UInt8) → α) : Prop :=
  ∀ mem mem', (∀ i < len, mem i = mem' i) → f mem = f mem'

section Bytes
variable {mem mem' : Nat → UInt8}

@[simp] theorem bytesAt_zero (mem : Nat → UInt8) (off : Nat) : bytesAt mem off 0 = [] := rfl

@[simp] theorem bytesAt_one (mem : Nat → UInt8) (off : Nat) : bytesAt mem off 1 = [mem off] := rfl

@[simp] theorem length_bytesAt (mem : Nat → UInt8) (off n : Nat) :
    (bytesAt mem off n).length = n := by
  induction n generalizing off with
  | zero => rfl
  | succ n ih => simp only [bytesAt, List.length_cons, ih]

theorem bytesAt_add (mem : Nat → UInt8) (off a b : Nat) :
    bytesAt mem off (a + b) = bytesAt mem off a ++ bytesAt mem (off + a) b := by
  induction a generalizing off with
  | zero => rw [Nat.zero_add, Nat.add_zero, bytesAt, List.nil_append]
  | succ a ih =>
    rw [Nat.succ_add, bytesAt, ih, bytesAt, List.cons_append, Nat.add_right_comm, Nat.add_assoc]

theorem take_bytesAt {off n w : Nat} (h : w ≤ n) :
    (bytesAt mem off n).take w = bytesAt mem off w := by
  obtain ⟨k, rfl⟩ := Nat.exists_eq_add_of_le h
  rw [bytesAt_add, List.take_left' (length_bytesAt mem off w)]

theorem drop_bytesAt {off n a : Nat} (h : a ≤ n) :
    (bytesAt mem off n).drop a = bytesAt mem (off + a) (n - a) := by
  obtain ⟨k, rfl⟩ := Nat.exists_eq_add_of_le h
  rw [bytesAt_add, List.drop_left' (length_bytesAt mem off a), Nat.add_sub_cancel_left]

theorem slice_bytesAt {off n a w : Nat} (h : a + w ≤ n) :
    ((bytesAt mem off n).drop a).take w = bytesAt mem (off + a) w := by
  rw [drop_bytesAt (by omega), take_bytesAt (by omega)]

theorem bytesAt_congr {off n : Nat} (h : ∀ i, off ≤ i → i < off + n → mem i = mem' i) :
    bytesAt mem off n = bytesAt mem' off n := by
  induction n generalizing off with
  | zero => rfl
  | succ n ih =>
    rw [bytesAt, bytesAt, h off (Nat.le_refl _) (by omega),
      ih fun i h₁ h₂ => h i (by omega) (by omega)]

theorem bytesAt_congr_below {len off n : Nat} (h : ∀ i < len, mem i = mem' i)
    (hn : off + n ≤ len) : bytesAt mem off n = bytesAt mem' off n :=
  bytesAt_congr fun i _ hi => h i (by omega)

theorem bytesAt_getD (l : List UInt8) {off n : Nat} (h : off + n ≤ l.length) :
    bytesAt (fun i => l.getD i 0) off n = (l.drop off).take n := by
  induction n generalizing off with
  | zero => rfl
  | succ n ih =>
    have hoff : off < l.length := by omega
    rw [bytesAt, @ih (off + 1) (by omega), List.getD_eq_getElem _ _ hoff,
      List.drop_eq_getElem_cons hoff]
    rfl

end Bytes

section Values

@[simp] theorem leValue_nil : leValue [] = 0 := rfl

@[simp] theorem leValue_cons (b : UInt8) (bs : List UInt8) :
    leValue (b :: bs) = b.toNat + 256 * leValue bs := rfl

theorem leBytes_leValue (bs : List UInt8) : leBytes bs.length (leValue bs) = bs := by
  induction bs with
  | nil => rfl
  | cons b bs ih =>
    have hb : b.toNat < 256 := b.toNat_lt_size
    rw [List.length_cons, leBytes, leValue_cons]
    congr 1
    · rw [Nat.add_mul_mod_self_left, Nat.mod_eq_of_lt hb]
      exact UInt8.toNat.inj (UInt8.toNat_ofNat_of_lt hb)
    · rw [Nat.add_mul_div_left _ _ (by decide), Nat.div_eq_of_lt hb, Nat.zero_add, ih]

@[simp] theorem length_leBytes (w x : Nat) : (leBytes w x).length = w := by
  induction w generalizing x with
  | zero => rfl
  | succ w ih => rw [leBytes, List.length_cons, ih]

theorem leValue_leBytes (n x : Nat) : leValue (leBytes n x) = x % 256 ^ n := by
  induction n generalizing x with
  | zero => simp only [leBytes, leValue_nil, Nat.pow_zero, Nat.mod_one]
  | succ n ih =>
    have hb : (UInt8.ofNat (x % 256)).toNat = x % 256 :=
      UInt8.toNat_ofNat_of_lt (Nat.mod_lt _ (by decide))
    rw [leBytes, leValue_cons, ih, hb, Nat.pow_succ', Nat.mod_mul]

end Values

namespace ByteOrder

@[simp] theorem native_little (bs : List UInt8) : little.native bs = leValue bs := rfl

@[simp] theorem leToCpu_little (w x : Nat) : little.leToCpu w x = x := rfl

@[simp] theorem leToCpu_native (host : ByteOrder) (bs : List UInt8) :
    host.leToCpu bs.length (host.native bs) = leValue bs := by
  cases host with
  | little => rfl
  | big =>
    show leValue (leBytes bs.length (leValue bs.reverse)).reverse = leValue bs
    rw [← List.length_reverse, leBytes_leValue, List.reverse_reverse]

@[simp] theorem leToCpu_load (host : ByteOrder) (mem : Nat → UInt8) (off w : Nat) :
    host.leToCpu w (host.load mem off w) = leValue (bytesAt mem off w) := by
  simpa only [length_bytesAt] using leToCpu_native host (bytesAt mem off w)

@[simp] theorem loadLe_eq (host : ByteOrder) (mem : Nat → UInt8) (off w : Nat) :
    host.loadLe mem off w = leValue (bytesAt mem off w) :=
  leToCpu_load host mem off w

@[simp] theorem load_little (mem : Nat → UInt8) (off w : Nat) :
    little.load mem off w = leValue (bytesAt mem off w) := rfl

end ByteOrder

end Lm

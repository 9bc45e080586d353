import Mathlib.Data.Nat.Digits

/-!
# Store keys

Every identifier exchange reads or writes one store entry, named by `getXCCLStoreKey`: the fixed
prefix followed by `std::to_string` of the process-wide `int` counter, which the call then
increments. Two exchanges of one process collide exactly when they read the same counter value,
because the decimal numeral of a non-negative counter determines it. The counter is a C++ `int`,
so it is a `BitVec 32` here and `std::to_string` prints its signed value.
-/

namespace TorchComms

/-- `TorchCommXCCLBootstrap::getXCCLStoreKeyPrefix`. -/
def getXCCLStoreKeyPrefix : String := "xccl_storekey_"

/-- `TorchCommXCCLBootstrap::getXCCLStoreKey`, on the process-wide `counter_`: the key of the
current counter value, and the counter after `counter_++`. -/
def getXCCLStoreKey (counter : BitVec 32) : String × BitVec 32 :=
  (getXCCLStoreKeyPrefix ++ toString counter.toInt, counter + 1)

/-- The keys of `k` successive `getXCCLStoreKey` calls, through any bootstrap instances of one
process, and the counter they leave. -/
def storeKeyRun : Nat → BitVec 32 → List String × BitVec 32
  | 0, counter => ([], counter)
  | k + 1, counter =>
    let rest := storeKeyRun k (getXCCLStoreKey counter).2
    ((getXCCLStoreKey counter).1 :: rest.1, rest.2)

/-! ### Decimal numerals are injective -/

theorem toDigitsCore_ten (fuel n : Nat) (ds : List Char) (hn : 0 < n) (hfuel : n < fuel) :
    Nat.toDigitsCore 10 fuel n ds = (Nat.digits 10 n).reverse.map Nat.digitChar ++ ds := by
  induction fuel generalizing n ds with
  | zero => omega
  | succ fuel ih =>
    have hdigits : Nat.digits 10 n = n % 10 :: Nat.digits 10 (n / 10) :=
      Nat.digits_def' (by norm_num) hn
    by_cases hdiv : n / 10 = 0
    · simp [Nat.toDigitsCore, hdiv, hdigits]
    · have hlt : n / 10 < fuel := by omega
      simp [Nat.toDigitsCore, hdiv, ih (n / 10) _ (Nat.pos_of_ne_zero hdiv) hlt, hdigits]

theorem toDigits_ten_of_pos {n : Nat} (hn : 0 < n) :
    Nat.toDigits 10 n = (Nat.digits 10 n).reverse.map Nat.digitChar := by
  simpa using toDigitsCore_ten (n + 1) n [] hn (by omega)

theorem digitChar_injOn_ten {a b : Nat} (ha : a < 10) (hb : b < 10)
    (h : Nat.digitChar a = Nat.digitChar b) : a = b := by
  have key : ∀ x y : Fin 10, Nat.digitChar x = Nat.digitChar y → x = y := by decide
  simpa using key ⟨a, ha⟩ ⟨b, hb⟩ h

theorem map_digitChar_inj :
    ∀ {l₁ l₂ : List Nat}, (∀ d ∈ l₁, d < 10) → (∀ d ∈ l₂, d < 10) →
      l₁.map Nat.digitChar = l₂.map Nat.digitChar → l₁ = l₂
  | [], [], _, _, _ => rfl
  | a :: l₁, b :: l₂, h₁, h₂, h => by
    simp only [List.map_cons, List.cons.injEq] at h
    simp only [List.mem_cons, forall_eq_or_imp] at h₁ h₂
    rw [digitChar_injOn_ten h₁.1 h₂.1 h.1, map_digitChar_inj h₁.2 h₂.2 h.2]
  | [], _ :: _, _, _, h | _ :: _, [], _, _, h => by simp at h

theorem toDigits_ten_injective : Function.Injective (Nat.toDigits 10) := by
  have hdig : ∀ n, ∀ d ∈ (Nat.digits 10 n).reverse, d < 10 := fun n d hd =>
    Nat.digits_lt_base (by norm_num) (List.mem_reverse.1 hd)
  have hzero : ∀ n, 0 < n → Nat.toDigits 10 n ≠ Nat.toDigits 10 0 := by
    intro n hn h
    rw [toDigits_ten_of_pos hn, show Nat.toDigits 10 0 = [Nat.digitChar 0] by rfl,
      show [Nat.digitChar 0] = [0].map Nat.digitChar by rfl] at h
    have hlast := Nat.getLast_digit_ne_zero 10 hn.ne'
    have := map_digitChar_inj (hdig n) (by simp) h
    simp [List.reverse_eq_cons_iff] at this
    simp [this] at hlast
  intro m n h
  rcases Nat.eq_zero_or_pos m with rfl | hm <;> rcases Nat.eq_zero_or_pos n with rfl | hn
  · rfl
  · exact absurd h.symm (hzero n hn)
  · exact absurd h (hzero m hm)
  · rw [toDigits_ten_of_pos hm, toDigits_ten_of_pos hn] at h
    rw [← Nat.ofDigits_digits 10 m, ← Nat.ofDigits_digits 10 n,
      List.reverse_inj.1 (map_digitChar_inj (hdig m) (hdig n) h)]

theorem toString_natCast_injective : Function.Injective fun n : Nat => toString (n : Int) := by
  intro m n h
  have h' : (Nat.toDigits 10 m).asString = (Nat.toDigits 10 n).asString := h
  exact toDigits_ten_injective (congrArg String.data h')

theorem storeKey_injective :
    Function.Injective fun n : Nat => getXCCLStoreKeyPrefix ++ toString (n : Int) := by
  intro m n h
  have h' := congrArg String.data h
  simp only [String.data_append] at h'
  exact toString_natCast_injective (String.ext (List.append_cancel_left h'))

/-! ### Runs of `getXCCLStoreKey` -/

theorem toInt_of_lt {c : BitVec 32} (hc : c.toNat < 2 ^ 31) : c.toInt = c.toNat := by
  rw [BitVec.toInt_eq_toNat_cond, if_pos (by omega)]

theorem storeKeyRun_eq (k : Nat) (c : BitVec 32) (hc : c.toNat + k ≤ 2 ^ 31) :
    storeKeyRun k c =
      ((List.range' c.toNat k).map fun n : Nat => getXCCLStoreKeyPrefix ++ toString (n : Int),
        c + BitVec.ofNat 32 k) := by
  induction k generalizing c with
  | zero => simp [storeKeyRun]
  | succ k ih =>
    have hnext : (c + 1).toNat = c.toNat + 1 := by
      simp [BitVec.toNat_add]
      omega
    simp only [storeKeyRun, getXCCLStoreKey, ih (c + 1) (by omega), hnext,
      toInt_of_lt (by omega : c.toNat < 2 ^ 31), List.range'_succ, List.map_cons, Prod.mk.injEq,
      true_and]
    apply BitVec.eq_of_toNat_eq
    simp [BitVec.toNat_add]
    omega

theorem storeKeyRun_length (k : Nat) (c : BitVec 32) : (storeKeyRun k c).1.length = k := by
  induction k generalizing c with
  | zero => rfl
  | succ k ih => simp [storeKeyRun, ih]

/-- One more call appends the key of the counter the run left. -/
theorem storeKeyRun_succ (k : Nat) (c : BitVec 32) :
    storeKeyRun (k + 1) c =
      ((storeKeyRun k c).1 ++ [(getXCCLStoreKey (storeKeyRun k c).2).1],
        (getXCCLStoreKey (storeKeyRun k c).2).2) := by
  induction k generalizing c with
  | zero => rfl
  | succ k ih =>
    rw [storeKeyRun, ih]
    rfl

/-- `k` calls advance the counter by `k`, wrapping as the `int` does. -/
theorem storeKeyRun_counter (k : Nat) (c : BitVec 32) :
    (storeKeyRun k c).2 = c + BitVec.ofNat 32 k := by
  induction k generalizing c with
  | zero => simp [storeKeyRun]
  | succ k ih =>
    have hone : (1 : BitVec 32).toNat = 1 := rfl
    rw [storeKeyRun, ih]
    apply BitVec.eq_of_toNat_eq
    simp only [getXCCLStoreKey, BitVec.toNat_add, BitVec.toNat_ofNat, hone]
    omega

theorem storeKeyRun_nodup_of_le {k : Nat} {c : BitVec 32} (hc : c.toNat + k ≤ 2 ^ 31) :
    (storeKeyRun k c).1.Nodup := by
  rw [storeKeyRun_eq k c hc]
  exact (List.nodup_range' _ _).map storeKey_injective

end TorchComms

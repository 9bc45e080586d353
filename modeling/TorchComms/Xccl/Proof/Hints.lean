import TorchComms.Xccl.Hints

/-!
# What the hint loop accepts

Three facts about `populateXcclConfigFromHints`. The loop throws exactly when some recognised
integer hint does not parse, whatever the order, since every branch reads only its own entry. Two
orders give the same configuration when no field is named by two keys; the spellings `minCTAs` and
`min_ctas` of one field are the case where the order decides. And what the loop computes is the
hint map read as last-writer-wins (`lastHint`): each field the value of the last entry naming it,
and a field no entry names its value before the loop.

The second half pins down which texts `std::stoi` accepts: white space, an optional sign, at least
one digit, and then anything.
-/

namespace TorchComms

variable {α : Type}

theorem takeWhile_dropWhile_eq_iff {p : α → Bool} {l a b : List α} :
    (l.takeWhile p = a ∧ l.dropWhile p = b) ↔
      (l = a ++ b ∧ (∀ x ∈ a, p x) ∧ ∀ x ∈ b.head?, p x = false) := by
  constructor
  · rintro ⟨rfl, rfl⟩
    refine ⟨(List.takeWhile_append_dropWhile p l).symm, fun x hx => List.mem_takeWhile_imp hx,
      ?_⟩
    intro x hx
    have := List.head?_dropWhile_not p l
    rw [Option.mem_def.1 hx] at this
    exact this
  · rintro ⟨rfl, ha, hb⟩
    have hrest : b.takeWhile p = [] ∧ b.dropWhile p = b := by
      cases b with
      | nil => simp
      | cons y ys => simp [List.takeWhile_cons, List.dropWhile_cons, hb y rfl]
    rw [List.takeWhile_append_of_pos ha, List.dropWhile_append_of_pos ha, hrest.1, hrest.2,
      List.append_nil]
    exact ⟨rfl, rfl⟩

/-! ### `std::stoi` -/

theorem isCSpace_of_isDigit {c : Char} (hc : c.isDigit) : isCSpace c = false := by
  simp only [isCSpace, Bool.or_eq_false_iff, decide_eq_false_iff_not]
  refine ⟨⟨⟨⟨⟨?_, ?_⟩, ?_⟩, ?_⟩, ?_⟩, ?_⟩ <;>
    rintro rfl <;> revert hc <;> decide

theorem splitSign_spec (cs : List Char) :
    ∃ sign, (sign = [] ∨ sign = ['+'] ∨ sign = ['-']) ∧ cs = sign ++ (splitSign cs).2 ∧
      (splitSign cs).1 = decide (sign = ['-']) := by
  cases cs with
  | nil => exact ⟨[], Or.inl rfl, rfl, rfl⟩
  | cons c rest =>
    by_cases hminus : c = '-'
    · exact ⟨['-'], Or.inr (Or.inr rfl), by simp [splitSign, hminus],
        by simp [splitSign, hminus]⟩
    by_cases hplus : c = '+'
    · exact ⟨['+'], Or.inr (Or.inl rfl), by simp [splitSign, hplus],
        by simp [splitSign, hplus]⟩
    · exact ⟨[], Or.inl rfl, by simp [splitSign, hminus, hplus],
        by simp [splitSign, hminus, hplus]⟩

theorem splitSign_append {sign body : List Char}
    (hsign : sign = [] ∨ sign = ['+'] ∨ sign = ['-']) {c : Char} {cs : List Char}
    (hbody : body = c :: cs) (hc : c.isDigit) :
    splitSign (sign ++ body) = (decide (sign = ['-']), body) := by
  subst hbody
  have hminus : c ≠ '-' := by rintro rfl; revert hc; decide
  have hplus : c ≠ '+' := by rintro rfl; revert hc; decide
  rcases hsign with rfl | rfl | rfl <;> simp [splitSign, hminus, hplus]

theorem intRange_eq_ok_iff {value result : Int} :
    intRange value = .ok result ↔ value = result ∧ -2 ^ 31 ≤ value ∧ value < 2 ^ 31 := by
  unfold intRange
  split_ifs with h
  · exact ⟨fun he => ⟨Except.ok.inj he, h⟩, fun he => he.1 ▸ rfl⟩
  · exact ⟨(fun he => by cases he), fun he => absurd he.2 h⟩

theorem head_not_space {sign rest : List Char} (hsign : sign = [] ∨ sign = ['+'] ∨ sign = ['-'])
    {d : Char} (hd : d.isDigit) : ∀ c ∈ (sign ++ d :: rest).head?, isCSpace c = false := by
  rcases hsign with rfl | rfl | rfl <;> simp [isCSpace_of_isDigit hd] <;> decide

/-- `strtol` reads `value` exactly on the texts `StrtolReads` describes. -/
theorem strtol_eq_some_iff (s : String) (value : Int) :
    strtol s = some value ↔ StrtolReads s value := by
  constructor
  · intro h
    obtain ⟨sign, hsign, hcs, hneg⟩ := splitSign_spec (s.toList.dropWhile isCSpace)
    unfold strtol at h
    generalize splitSign (s.toList.dropWhile isCSpace) = parts at hcs hneg h
    obtain ⟨negative, body⟩ := parts
    dsimp only at hcs hneg h
    subst hneg
    by_cases hdigits : body.takeWhile Char.isDigit = []
    · simp [hdigits] at h
    rw [if_neg hdigits, Option.some.injEq] at h
    refine ⟨s.toList.takeWhile isCSpace, sign, body.takeWhile Char.isDigit,
      body.dropWhile Char.isDigit, ?_, fun c hc => List.mem_takeWhile_imp hc, hsign, hdigits,
      fun c hc => List.mem_takeWhile_imp hc, ?_, by simp [← h]⟩
    · rw [List.append_assoc, List.takeWhile_append_dropWhile, List.append_assoc, ← hcs,
        List.takeWhile_append_dropWhile]
    · intro c hc
      have := List.head?_dropWhile_not Char.isDigit body
      rwa [Option.mem_def.1 hc] at this
  · rintro ⟨space, sign, digits, rest, hs, hspace, hsign, hne, hdig, hrest, rfl⟩
    obtain ⟨d, ds, rfl⟩ := List.exists_cons_of_ne_nil hne
    have hd : d.isDigit := hdig d (List.mem_cons_self d ds)
    have hdrop : s.toList.dropWhile isCSpace = sign ++ d :: (ds ++ rest) :=
      (takeWhile_dropWhile_eq_iff.2 ⟨by simpa using hs, hspace, head_not_space hsign hd⟩).2
    have htake : (d :: (ds ++ rest)).takeWhile Char.isDigit = d :: ds :=
      (takeWhile_dropWhile_eq_iff.2 ⟨rfl, hdig, hrest⟩).1
    unfold strtol
    rw [hdrop, splitSign_append hsign rfl hd]
    simp only [htake, reduceCtorEq, if_false, decide_eq_true_eq]

/-- `std::stoi` returns `value` exactly on the texts `StoiAccepts` describes. -/
theorem stoi_eq_ok_iff (s : String) (value : Int) : stoi s = .ok value ↔ StoiAccepts s value := by
  rw [StoiAccepts, ← strtol_eq_some_iff, stoi]
  cases strtol s with
  | none => simp
  | some v =>
    rw [intRange_eq_ok_iff, Option.some.injEq]
    constructor <;> rintro ⟨rfl, h⟩ <;> exact ⟨rfl, h⟩

/-- `std::stoi` throws `std::invalid_argument` exactly when `strtol` reads no number. -/
theorem stoi_eq_invalidArgument_iff (s : String) :
    stoi s = .error .invalidArgument ↔ ∀ value, ¬ StrtolReads s value := by
  simp only [← strtol_eq_some_iff, stoi]
  cases strtol s with
  | none => simp
  | some v =>
    refine ⟨fun h => ?_, fun h => absurd rfl (h v)⟩
    simp only [intRange] at h
    split_ifs at h
    cases h

/-- `std::stoi` throws `std::out_of_range` exactly when `strtol` reads a number outside `int`. -/
theorem stoi_eq_outOfRange_iff (s : String) :
    stoi s = .error .outOfRange ↔
      ∃ value, StrtolReads s value ∧ ¬ (-2 ^ 31 ≤ value ∧ value < 2 ^ 31) := by
  simp only [← strtol_eq_some_iff, stoi]
  cases strtol s with
  | none => simp
  | some v =>
    simp only [intRange, Option.some.injEq, exists_eq_left']
    split_ifs with h
    · exact ⟨nofun, fun hn => absurd h hn⟩
    · exact ⟨fun _ => h, fun _ => rfl⟩

/-! ### One integer hint -/

theorem populateXcclConfigFromHints_single {key : String} {field : IntField}
    (hkey : hintTarget key = some (.int field)) (config : OnecclConfig) (val : String) :
    populateXcclConfigFromHints config [(key, val)] = (stoi val).map (config.setInt field) := by
  simp only [populateXcclConfigFromHints_cons, applyHint, hkey, OnecclConfig.assign]
  cases stoi val <;> rfl

/-- **Integer hints.** On one recognised integer hint the loop succeeds exactly when `std::stoi`
accepts the value, in the sense of `StoiAccepts`, and then writes that value to the hint's field;
otherwise it throws: `std::invalid_argument` when `strtol` reads no number, `std::out_of_range`
when it reads one outside `int`. -/
theorem populateXcclConfigFromHints_intHint {key : String} {field : IntField}
    (hkey : hintTarget key = some (.int field)) (config : OnecclConfig) (val : String) :
    (∀ n, populateXcclConfigFromHints config [(key, val)] = .ok (config.setInt field n) ↔
        StoiAccepts val n) ∧
      ((∃ e, populateXcclConfigFromHints config [(key, val)] = .error e) ↔
        ∀ n, ¬ StoiAccepts val n) ∧
      (populateXcclConfigFromHints config [(key, val)] = .error .invalidArgument ↔
        ∀ n, ¬ StrtolReads val n) ∧
      (populateXcclConfigFromHints config [(key, val)] = .error .outOfRange ↔
        ∃ n, StrtolReads val n ∧ ¬ (-2 ^ 31 ≤ n ∧ n < 2 ^ 31)) := by
  have herror : ∀ e, populateXcclConfigFromHints config [(key, val)] = .error e ↔
      stoi val = .error e := fun e => by
    rw [populateXcclConfigFromHints_single hkey]
    cases stoi val <;> simp [Except.map]
  refine ⟨fun n => ?_, ?_, (herror _).trans (stoi_eq_invalidArgument_iff val),
    (herror _).trans (stoi_eq_outOfRange_iff val)⟩
  · rw [populateXcclConfigFromHints_single hkey, ← stoi_eq_ok_iff]
    cases stoi val with
    | error e => exact ⟨nofun, nofun⟩
    | ok m =>
      refine ⟨fun h => ?_, fun h => (Except.ok.inj h) ▸ rfl⟩
      rw [setInt_injective config field (Except.ok.inj h)]
  · simp only [herror, ← stoi_eq_ok_iff]
    cases stoi val with
    | error e => exact ⟨fun _ n => nofun, fun _ => ⟨e, rfl⟩⟩
    | ok m => exact ⟨fun ⟨e, h⟩ => (nomatch h), fun h => absurd rfl (h m)⟩

theorem populateXcclConfigFromHints_intHint_blocking :
    hintTarget "blocking" = some (.int .blocking) ∧
      ((∀ n, populateXcclConfigFromHints default [("blocking", "42")] =
          .ok ((default : OnecclConfig).setInt .blocking n) ↔ StoiAccepts "42" n) ∧
        ((∃ e, populateXcclConfigFromHints default [("blocking", "42")] = .error e) ↔
          ∀ n, ¬ StoiAccepts "42" n) ∧
        (populateXcclConfigFromHints default [("blocking", "42")] = .error .invalidArgument ↔
          ∀ n, ¬ StrtolReads "42" n) ∧
        (populateXcclConfigFromHints default [("blocking", "42")] = .error .outOfRange ↔
          ∃ n, StrtolReads "42" n ∧ ¬ (-2 ^ 31 ≤ n ∧ n < 2 ^ 31))) :=
  ⟨by decide, populateXcclConfigFromHints_intHint (by decide) default "42"⟩

/-- An integer as the strict reading has it: an optional sign, one or more decimal digits, and
nothing else, with a value in `int`. -/
def IsIntLiteral (s : String) (value : Int) : Prop :=
  ∃ sign digits : List Char, s.toList = sign ++ digits ∧
    (sign = [] ∨ sign = ['+'] ∨ sign = ['-']) ∧ digits ≠ [] ∧
    (∀ c ∈ digits, c.isDigit) ∧
    value = (if sign = ['-'] then -(decimalValue digits : Int) else decimalValue digits) ∧
    -2 ^ 31 ≤ value ∧ value < 2 ^ 31

/-- `std::stoi` reads `"1e3"` as `1`: the loop accepts a value that is not an integer literal. -/
theorem populateXcclConfigFromHints_exponent_counterexample :
    ¬ ∀ (key : String) (field : IntField) (config : OnecclConfig) (val : String),
      hintTarget key = some (.int field) →
        ((∃ result, populateXcclConfigFromHints config [(key, val)] = .ok result) ↔
          ∃ n, IsIntLiteral val n) := by
  intro h
  obtain ⟨n, sign, digits, hs, hsign, -, hdigits, -⟩ :=
    (h "blocking" .blocking default "1e3" (by decide)).1 ⟨_, rfl⟩
  have he : 'e' ∈ sign ++ digits := by rw [← hs]; decide
  rcases List.mem_append.1 he with hsign' | hdig
  · rcases hsign with rfl | rfl | rfl <;> simp at hsign'
  · exact absurd (hdigits 'e' hdig) (by decide)

/-! ### Order of the entries -/

/-- The text the hint map gives the field `t`: the value of the last entry whose key names it. -/
def lastHint (t : HintTarget) (hints : List (String × String)) : Option String :=
  ((hints.filter fun hint => hintTarget hint.1 = some t).map Prod.snd).getLast?

theorem lastHint_cons (t : HintTarget) (key val : String) (hints : List (String × String)) :
    lastHint t ((key, val) :: hints) =
      (lastHint t hints).or (if hintTarget key = some t then some val else none) := by
  unfold lastHint
  by_cases ht : hintTarget key = some t
  · rw [List.filter_cons_of_pos (by simpa using ht), List.map_cons, List.getLast?_cons, if_pos ht]
    cases ((hints.filter fun hint => hintTarget hint.1 = some t).map Prod.snd).getLast? <;> rfl
  · rw [List.filter_cons_of_neg (by simpa using ht), if_neg ht, Option.or_none]

/-- One entry sets the field it names, as `std::stoi` reads an integer, and no other. -/
theorem applyHint_getInt {config config' : OnecclConfig} {key val : String}
    (h : applyHint config key val = .ok config') (f : IntField) :
    (hintTarget key = some (.int f) → stoi val = .ok (config'.getInt f)) ∧
      (hintTarget key ≠ some (.int f) → config'.getInt f = config.getInt f) := by
  unfold applyHint at h
  rcases ht : hintTarget key with _ | ⟨g⟩ | ⟨g⟩ <;> rw [ht] at h
  · cases h
    simp
  · cases hv : stoi val with
    | error e => simp [OnecclConfig.assign, hv, Except.map] at h
    | ok v =>
      simp only [OnecclConfig.assign, hv, Except.map, Except.ok.injEq] at h
      subst h
      by_cases hfg : g = f <;> simp [hfg]
  · simp only [OnecclConfig.assign, Except.ok.injEq] at h
    subst h
    simp

theorem applyHint_getString {config config' : OnecclConfig} {key val : String}
    (h : applyHint config key val = .ok config') (f : StringField) :
    config'.getString f =
      if hintTarget key = some (.string f) then some (cString val) else config.getString f := by
  unfold applyHint at h
  rcases ht : hintTarget key with _ | ⟨g⟩ | ⟨g⟩ <;> rw [ht] at h
  · cases h
    simp
  · cases hv : stoi val with
    | error e => simp [OnecclConfig.assign, hv, Except.map] at h
    | ok v =>
      simp only [OnecclConfig.assign, hv, Except.map, Except.ok.injEq] at h
      subst h
      simp
  · simp only [OnecclConfig.assign, Except.ok.injEq] at h
    subst h
    by_cases hfg : g = f <;> simp [hfg]

/-- **The hint map, last writer wins.** When `populateXcclConfigFromHints` succeeds, every field
of the result is the value of the last entry naming it (as `std::stoi` reads it, for an `int`
field; as `strdup` copies it, up to the first NUL, for a string field), and a field no entry names
keeps its value from `config`. -/
theorem populateXcclConfigFromHints_lastHint {config result : OnecclConfig}
    {hints : List (String × String)} (h : populateXcclConfigFromHints config hints = .ok result) :
    (∀ f, match lastHint (.int f) hints with
      | some v => stoi v = .ok (result.getInt f)
      | none => result.getInt f = config.getInt f) ∧
    ∀ f, result.getString f = ((lastHint (.string f) hints).map cString).or (config.getString f) := by
  induction hints generalizing config with
  | nil =>
    cases h
    exact ⟨fun f => rfl, fun f => rfl⟩
  | cons hint hints ih =>
    obtain ⟨key, val⟩ := hint
    rw [populateXcclConfigFromHints_cons] at h
    cases happly : applyHint config key val with
    | error e => rw [happly] at h; cases h
    | ok config' =>
      rw [happly] at h
      obtain ⟨hint, hstring⟩ := ih h
      refine ⟨fun f => ?_, fun f => ?_⟩
      · have hf := hint f
        have hcur := applyHint_getInt happly f
        rw [lastHint_cons]
        -- A later entry naming the field wins; otherwise this one, if it names it.
        cases hlast : lastHint (.int f) hints with
        | some v => simpa [hlast] using hf
        | none =>
          rw [hlast] at hf
          by_cases ht : hintTarget key = some (.int f)
          · simpa [ht, hf] using hcur.1 ht
          · simpa [ht, hf] using hcur.2 ht
      · rw [hstring f, applyHint_getString happly f, lastHint_cons]
        cases lastHint (.string f) hints <;> by_cases ht : hintTarget key = some (.string f) <;>
          simp [ht]

/-- Both spellings of `minCTAs` and a `commName` hint with a NUL inside: the entry enumerated last
sets `minCTAs`, the `commName` hint replaces the name with its text before the NUL, and
`blocking` keeps its initial value. -/
theorem populateXcclConfigFromHints_lastHint_aliases :
    let hints := [("min_ctas", "4"), ("commName", "x\x00y"), ("minCTAs", "8")]
    let result := (((default : OnecclConfig).setInt .minCTAs 4).setString .commName "x\x00y").setInt
      .minCTAs 8
    populateXcclConfigFromHints default hints = .ok result ∧
      (∀ f, match lastHint (.int f) hints with
        | some v => stoi v = .ok (result.getInt f)
        | none => result.getInt f = (default : OnecclConfig).getInt f) ∧
      ∀ f, result.getString f =
        ((lastHint (.string f) hints).map cString).or ((default : OnecclConfig).getString f) := by
  refine ⟨?h, populateXcclConfigFromHints_lastHint ?h⟩
  rfl

end TorchComms

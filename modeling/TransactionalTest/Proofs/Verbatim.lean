import TransactionalTest.Proofs.Layering
import TransactionalTest.Proofs.Shortest

/-!
# The manager's name in a variable

A file gives the name of a manager as a text, and it stays as it is.  The text of a variable is
first taken for a truth value or a number if it looks like one, and then written out again, so
that some names come back in another spelling and no longer name the manager that was meant.

* `Respelled` : the texts that come back changed;
* `Environment.typed_spelled` : all others come back as they are, and every text comes back unpadded
  and with the same meaning;
* `ListenerConfig.load_manager_variable` : what name the loader takes from a variable.
-/

namespace TransactionalTest

open Lower

/-! ### Texts of numbers -/

theorem Blank.isBlank_of_isDigit {c : Char} (h : c.isDigit = true) : isBlank c = false := by
  have := Digits.bounds_of_isDigit h
  simp only [isBlank, Bool.or_eq_false_iff, Bool.and_eq_false_iff, decide_eq_false_iff_not,
    beq_eq_false_iff_ne]
  omega

theorem Blank.isBlank_of_all {cs : List Char} (h : (cs.all fun c => !isBlank c) = true) {c : Char}
    (hc : c ∈ cs) : isBlank c = false := by
  simpa using List.all_eq_true.1 h c hc

/-- A text without any blank has none at its ends. -/
theorem Blank.isPadded_of_no_blank {s : String} (h : ∀ c ∈ s.toList, isBlank c = false) :
    isPadded s = false := by
  rw [isPadded_eq, Bool.or_eq_false_iff]
  constructor
  · rw [Option.any_eq_false]
    exact fun c hc => by simpa using h c (List.mem_of_mem_head? hc)
  · rw [Option.any_eq_false]
    exact fun c hc => by simpa using h c (List.mem_of_mem_getLast? hc)

namespace Shortest

theorem mem_positional {d : Nat} {e : Int} {c : Char} (h : c ∈ positional d e) :
    c.isDigit = true ∨ c = '.' := by
  obtain ⟨first, whole, fraction, hwhole, hfraction, hparts, -⟩ := positional_cases d e
  rcases hparts with ⟨hparts, -⟩ | hparts <;> rw [hparts] at h
  · exact .inl (hwhole c h)
  · rcases List.mem_append.1 h with h | h
    · exact .inl (hwhole c h)
    · exact (List.mem_cons.1 h).symm.imp_left (hfraction c)

theorem isBlank_of_mem_text {x : Binary64} {c : Char} (h : c ∈ (text x).toList) :
    Blank.isBlank c = false := by
  cases x with
  | nan => exact Blank.isBlank_of_all (by decide) (show c ∈ "NaN".toList from h)
  | infinite negative =>
    cases negative
    · exact Blank.isBlank_of_all (by decide) (show c ∈ "inf".toList from h)
    · exact Blank.isBlank_of_all (by decide) (show c ∈ "-inf".toList from h)
  | finite negative m q =>
    have hbody (hc : c ∈ if m = 0 then ['0'] else positional (digits m q).1 (digits m q).2) :
        Blank.isBlank c = false := by
      split_ifs at hc
      · rw [List.mem_singleton.1 hc]
        decide
      · rcases mem_positional hc with hc | rfl
        · exact Blank.isBlank_of_isDigit hc
        · decide
    simp only [text, String.toList_ofList] at h
    cases negative with
    | false => exact hbody h
    | true =>
      rcases List.mem_cons.1 h with rfl | h
      · decide
      · exact hbody h

end Shortest

theorem isBlank_of_mem_toString {n : Int} {c : Char} (h : c ∈ (toString n).toList) :
    Blank.isBlank c = false := by
  rcases Int.eq_nat_or_neg n with ⟨m, rfl | rfl⟩
  · rw [Digits.toList_toString_of_nonneg] at h
    exact Blank.isBlank_of_isDigit (Digits.isDigit_of_mem_text h)
  · rcases Nat.eq_zero_or_pos m with rfl | hpos
    · exact Blank.isBlank_of_all (by decide) h
    · rw [Digits.toList_toString_neg hpos] at h
      rcases List.mem_cons.1 h with rfl | h
      · decide
      · exact Blank.isBlank_of_isDigit (Digits.isDigit_of_mem_text h)

/-! ### Spelling -/

/-- The text comes back from a variable in another spelling: a truth value not in lower case, an
integer with a plus sign, with a zero in front of other digits or as zero below zero, or another
number that is not written the shortest way. -/
inductive Respelled (text : String) : Prop
  | word {b : Bool} (h : Environment.typed text = .boolean b) (hne : text ≠ lower text)
  | plus {n : Int} (h : Environment.typed text = .integer n)
    (hsign : text.toList.head? = some '+')
  | zeros {n : Int} {r : List Char} (h : Environment.typed text = .integer n)
    (hdigits : (Numeral.sign text.toList).2 = '0' :: r) (hr : r ≠ [])
  | minusZero {n : Int} (h : Environment.typed text = .integer n) (hzero : text = "-0")
  | number {x : Binary64} (h : Environment.typed text = .real x) (hne : Shortest.text x ≠ text)

namespace Respelled

variable {text : String}

theorem iff_of_boolean {b : Bool} (ht : Environment.typed text = .boolean b) :
    Respelled text ↔ text ≠ lower text := by
  refine ⟨fun h => ?_, fun hne => .word ht hne⟩
  cases h with
  | word _ hne => exact hne
  | plus h | zeros h | minusZero h | number h => simp [ht] at h

theorem iff_of_integer {n : Int} (ht : Environment.typed text = .integer n) :
    Respelled text ↔ ¬(text.toList.head? ≠ some '+' ∧ text ≠ "-0" ∧
      ∀ r, (Numeral.sign text.toList).2 = '0' :: r → r = []) := by
  constructor
  · rintro h ⟨hplus, hzero, hzeros⟩
    cases h with
    | plus _ hsign => exact hplus hsign
    | minusZero _ h => exact hzero h
    | zeros _ hdigits hr => exact hr (hzeros _ hdigits)
    | word h | number h => simp [ht] at h
  · intro h
    by_contra hno
    refine h ⟨fun hsign => hno (.plus ht hsign), fun hzero => hno (.minusZero ht hzero), ?_⟩
    exact fun r hdigits => by_contra fun hr => hno (.zeros ht hdigits hr)

theorem iff_of_real {x : Binary64} (ht : Environment.typed text = .real x) :
    Respelled text ↔ Shortest.text x ≠ text := by
  refine ⟨fun h => ?_, fun hne => .number ht hne⟩
  cases h with
  | number h hne =>
    obtain rfl : x = _ := Setting.real.inj (ht.symm.trans h)
    exact hne
  | word h | plus h | zeros h | minusZero h => simp [ht] at h

theorem not_of_text (ht : Environment.typed text = .text text) : ¬Respelled text := by
  intro h
  cases h with
  | word h | plus h | zeros h | minusZero h | number h => simp [ht] at h

end Respelled

namespace Environment

/-- The text says the value, in one of its spellings. -/
inductive Says (text : String) : Setting → Prop
  | yes (h : lower text = "true") : Says text (.boolean true)
  | no (h : lower text = "false") : Says text (.boolean false)
  | integer {n : Int} (h : Digits.integer? text.toList = some n) : Says text (.integer n)
  | number {x : Binary64} (h : Binary64.ofChars? text.toList = some x) : Says text (.real x)
  | plain : Says text (.text text)

/-- A text says what it is taken for. -/
theorem says_typed (text : String) : Says text (typed text) := by
  have hnumber {x : Setting} (hsome : ∀ y, Binary64.ofChars? text.toList = some y → x = .real y)
      (hnone : Binary64.ofChars? text.toList = none → x = .text text) : Says text x := by
    cases hreal : Binary64.ofChars? text.toList with
    | none => exact hnone hreal ▸ .plain
    | some y => exact hsome y hreal ▸ .number hreal
  unfold typed
  simp only
  split_ifs with htrue hfalse
  · exact .yes htrue
  · exact .no hfalse
  · cases hint : Digits.integer? text.toList with
    | none => exact hnumber (fun y hy => by rw [hy]) (fun h => by rw [h])
    | some n =>
      simp only
      split_ifs
      · exact .integer hint
      · exact hnumber (fun y hy => by rw [hy]) (fun h => by rw [h])

/-- The text of a variable comes back unpadded and says the same value, and it is as it was unless
it is respelled. -/
theorem typed_spelled {text : String} (hpad : Blank.isPadded text = false) :
    ∃ name, (typed text).toText? = some name ∧ Blank.isPadded name = false ∧
      Says name (typed text) ∧ (name = text ↔ ¬Respelled text) := by
  have hsays := says_typed text
  generalize ht : typed text = x at hsays
  cases hsays with
  | yes hword =>
    refine ⟨"true", rfl, by decide, .yes (by decide), ?_⟩
    rw [Respelled.iff_of_boolean ht, not_not, hword, eq_comm]
  | no hword =>
    refine ⟨"false", rfl, by decide, .no (by decide), ?_⟩
    rw [Respelled.iff_of_boolean ht, not_not, hword, eq_comm]
  | @integer n hint =>
    refine ⟨toString n, rfl, Blank.isPadded_of_no_blank fun c hc => isBlank_of_mem_toString hc,
      .integer (Digits.integer?_toString n), ?_⟩
    rw [Respelled.iff_of_integer ht, not_not]
    exact (Digits.isInteger_of_integer? hint).toString_eq_iff
  | @number x hreal =>
    refine ⟨Shortest.text x, rfl,
      Blank.isPadded_of_no_blank fun c hc => Shortest.isBlank_of_mem_text hc,
      .number (Shortest.ofChars?_text (Binary64.isCanonical_ofChars? hreal)), ?_⟩
    rw [Respelled.iff_of_real ht, not_not]
  | plain => exact ⟨text, rfl, hpad, .plain, by simp [Respelled.not_of_text ht]⟩

/-! ### Names that are safe -/

/-- Small letters that `Char.toLower` makes are the ones that `lower` makes. -/
theorem lower_eq_of_toLower {s word : String}
    (h : String.ofList (s.toList.map Char.toLower) = word)
    (hkelvin : '\u212A' ∉ word.toList) : lower s = word := by
  rw [← h, lower]
  refine congrArg String.ofList (List.map_congr_left fun c hc => if_neg fun hk => ?_)
  obtain rfl : c = '\u212A' := Char.toNat_inj.1 hk
  refine hkelvin ?_
  rw [← h, String.toList_ofList]
  exact List.mem_map.2 ⟨'\u212A', hc, by decide⟩

/-- A text is taken for nothing but a text when it begins with a letter, say, and is none of the
words for truth values, infinity and what is no number. -/
theorem typed_of_letter {text : String} {c : Char} {r : List Char} (htext : text.toList = c :: r)
    (hdigit : c.isDigit = false) (hsign : c ∉ ['+', '-', '.'])
    (hword : lower text ∉ ["true", "false", "inf", "infinity", "nan"]) :
    typed text = .text text := by
  simp only [List.mem_cons, List.not_mem_nil, or_false, not_or] at hsign hword
  obtain ⟨hplus, hminus, hpoint⟩ := hsign
  obtain ⟨htrue, hfalse, hinf, hinfinity, hnan⟩ := hword
  have hbare : Numeral.sign (c :: r) = (false, c :: r) := by
    unfold Numeral.sign
    split
    case h_1 heq => exact absurd (List.cons.inj heq).1 hminus
    case h_2 heq => exact absurd (List.cons.inj heq).1 hplus
    case h_3 => rfl
  have hspan : Digits.span (c :: r) = ([], c :: r) := by
    simp [Digits.span, List.span_eq_takeWhile_dropWhile, hdigit]
  have hsays := says_typed text
  generalize typed text = x at hsays
  cases hsays with
  | yes h => exact absurd h htrue
  | no h => exact absurd h hfalse
  | integer hint => simp [Digits.integer?, htext, hbare, hspan] at hint
  | plain => rfl
  | number hreal =>
    have hnumeral : Numeral.ofChars? text.toList = none := by
      simp [htext, Numeral.ofChars?, hbare, hspan, hpoint]
    have hspecial : Binary64.special? text.toList = none := by
      have hne (word : String) (hk : '\u212A' ∉ word.toList) (h : lower text ≠ word) :
          String.ofList (text.toList.map Char.toLower) ≠ word :=
        fun heq => h (lower_eq_of_toLower heq hk)
      have hinf := hne "inf" (by decide) hinf
      have hinfinity := hne "infinity" (by decide) hinfinity
      have hnan := hne "nan" (by decide) hnan
      rw [htext] at hinf hinfinity hnan
      rw [Binary64.special?, htext, hbare]
      simp only
      rw [if_neg (by simp only [hinf, hinfinity, or_self, not_false_eq_true]), if_neg hnan]
    simp [Binary64.ofChars?, hspecial, hnumeral] at hreal

end Environment

/-! ### Loading -/

namespace Settings

/-- A manager's name on top of settings that make a configuration. -/
theorem toConfig?_assign_manager {s : Settings} {c : ListenerConfig} (h : s.toConfig? = some c)
    {x : Setting} {name : String} (hx : x.toText? = some name) :
    (s.assign "default_transaction_manager" x).toConfig? =
      some { c with defaultTransactionManager := name } := by
  have hplain : IsPlain "default_transaction_manager" := by decide
  have hlower : lower "default_transaction_manager" = "default_transaction_manager" := by decide
  have hother {field : String} (hne : field ≠ "default_transaction_manager") :
      (s.assign "default_transaction_manager" x).find? field = s.find? field :=
    find?_assign_of_ne hplain (by rw [hlower]; exact hne.symm) x s
  have hself : (s.assign "default_transaction_manager" x).find? "default_transaction_manager" =
      some x := by
    have hne : x ≠ .table true := by
      rintro rfl
      simp [Setting.toText?] at hx
    simpa [hlower] using find?_assign_self hplain hne s
  rw [toConfig?_eq_some_iff] at h ⊢
  rw [hother (by decide), hother (by decide), hself]
  exact ⟨h.1, h.2.1, hx⟩

end Settings

namespace Environment

/-- Variables that set nothing can be left out. -/
theorem layer_filter (vars : List (String × String)) :
    layer (vars.filter fun v => (keyOf? v.1).isSome) = layer vars := by
  rw [layer, List.filterMap_filter, layer]
  refine List.filterMap_congr fun v _ => ?_
  cases keyOf? v.1 <;> rfl

end Environment

namespace ListenerConfig

theorem load_eq_ok_iff {s : ConfigurationSources} {c : ListenerConfig}
    {wording : ConfigurationSources → SourceFault → String} :
    (load s wording).1 = .ok c ↔
      (∀ path ∈ s.file, s.workspace.has path = true) ∧
      (∃ file, s.fileLayer = .ok file ∧
        ((Environment.layer s.vars).over (file.over Settings.defaults)).toConfig? = some c) ∧
      Blank.isPadded c.defaultTransactionManager = false := by
  have hpresent : s.file.filter (fun path => !s.workspace.has path) = none ↔
      ∀ path ∈ s.file, s.workspace.has path = true := by
    simp [Option.filter_eq_none_iff]
  rw [← hpresent, load]
  cases hmissing : s.file.filter fun path => !s.workspace.has path with
  | some path => simp
  | none =>
    cases hfile : s.fileLayer with
    | error e =>
      simp [ConfigurationSources.config, ConfigurationSources.settings, hfile, Except.map]
    | ok file =>
      simp only [ConfigurationSources.config, ConfigurationSources.settings, hfile, Except.map]
      cases hconfig : ((Environment.layer s.vars).over (file.over Settings.defaults)).toConfig? with
      | none => simp [hconfig]
      | some d =>
        by_cases hd : d = c
        · subst hd
          cases hpad : Blank.isPadded d.defaultTransactionManager <;> simp [validate, hconfig, hpad]
        · cases hpad : Blank.isPadded d.defaultTransactionManager <;>
            simp [validate, hconfig, hpad, hd]

/-- **The name of a manager in a variable.**  Over a file that loads, the only variable that sets
anything gives the manager's name.  The name says what the text of the variable says, but it is not
always that text: it is unless the text is respelled. -/
theorem load_manager_variable {s : ConfigurationSources} {c : ListenerConfig} {text : String}
    {wording : ConfigurationSources → SourceFault → String}
    (hload : (load { s with vars := [] } wording).1 = .ok c)
    (hvars : (s.vars.filter fun v => (Environment.keyOf? v.1).isSome) =
      [("TXTEST_DEFAULT_TRANSACTION_MANAGER", text)])
    (hpad : Blank.isPadded text = false) :
    ∃ name, (load s wording).1 = .ok { c with defaultTransactionManager := name } ∧
      Environment.Says name (Environment.typed text) ∧ (name = text ↔ ¬Respelled text) := by
  obtain ⟨name, htext, hname, hsays, hspelled⟩ := Environment.typed_spelled hpad
  obtain ⟨hpresent, ⟨file, hfile, hconfig⟩, -⟩ := load_eq_ok_iff.1 hload
  have hlayer : Environment.layer s.vars =
      [("default_transaction_manager", Environment.typed text)] := by
    have hkey : Environment.keyOf? "TXTEST_DEFAULT_TRANSACTION_MANAGER" =
        some "default_transaction_manager" := by decide
    rw [← Environment.layer_filter, hvars]
    simp [Environment.layer, hkey]
  refine ⟨name, load_eq_ok_iff.2 ⟨hpresent, ⟨file, hfile, ?_⟩, hname⟩, hsays, hspelled⟩
  simp only [hlayer, Layer.over, List.foldl_cons, List.foldl_nil]
  exact Settings.toConfig?_assign_manager hconfig htext

/-- A name that looks like nothing else is taken as it is, over a file with another one. -/
theorem load_manager_variable_plain :
    let s : ConfigurationSources :=
      { workspace := [("txtest.toml",
          "default_rollback = false\ndefault_transaction_manager = \"stock\"")]
        vars := [("PATH", "/bin"), ("TXTEST_DEFAULT_TRANSACTION_MANAGER", "ordersTx")] }
    (load s).1 = .ok ⟨false, false, "ordersTx"⟩ := by
  intro s
  have hfile : (load { s with vars := [] }).1 = .ok ⟨false, false, "stock"⟩ := by decide +kernel
  obtain ⟨name, hload, -, hspelled⟩ := load_manager_variable hfile
    (show _ = [("TXTEST_DEFAULT_TRANSACTION_MANAGER", "ordersTx")] by decide) (by decide)
  have htyped : Environment.typed "ordersTx" = .text "ordersTx" :=
    Environment.typed_of_letter (show _ = 'o' :: "rdersTx".toList by decide) (by decide)
      (by decide) (by decide)
  rw [hload, hspelled.2 (Respelled.not_of_text htyped)]

/-- The name `007` is taken as it is from a file, and becomes `7` in a variable. -/
theorem load_manager_variable_rewritten :
    (load {}).1 = .ok {} ∧ Blank.isPadded "007" = false ∧
    (load { workspace := [("txtest.toml", "default_transaction_manager = \"007\"")] }).1 =
      .ok { defaultTransactionManager := "007" } ∧
    (load { vars := [("TXTEST_DEFAULT_TRANSACTION_MANAGER", "007")] }).1 =
      .ok { defaultTransactionManager := "7" } := by
  decide +kernel

end ListenerConfig

end TransactionalTest

import Mathlib
import Formula.Proofs.Conversation
import Formula.Proofs.Unambiguous

/-! What a line can do to the settings. Nothing, unless its words are those of a switch; and although names are
lowered by the rules for all letters there are, the names of settings are met by letters of ASCII alone. An
expression is never taken for a command. -/
namespace Formula
open Grammar Token

section Lowering

variable {c : Char}

/-- The first run is that of the capitals of ASCII, and all others lie outside. -/
lemma first_of_caseRuns : ∀ run ∈ caseRuns.tail, 128 ≤ run.first := by decide +kernel

lemma find?_caseRuns (h : c.toNat < 128) :
    caseRuns.find? (·.covers c) = if c.isUpper then some ⟨0x41,0x5A,1,32⟩ else none := by
  have hothers : caseRuns.tail.find? (·.covers c) = none := by
    rw [List.find?_eq_none]
    intro run hrun hcovers
    have hfirst := first_of_caseRuns run hrun
    simp only [CaseRun.covers,Bool.and_eq_true,decide_eq_true_eq] at hcovers
    omega
  have hcapitals : (CaseRun.mk 0x41 0x5A 1 32).covers c = c.isUpper := by
    rw [Bool.eq_iff_iff,isUpper_iff]
    simp [CaseRun.covers,Nat.mod_one]
  have hruns : caseRuns = ⟨0x41,0x5A,1,32⟩ :: caseRuns.tail := rfl
  rw [hruns,List.find?_cons,hcapitals,hothers]
  cases c.isUpper <;> rfl

lemma lowerChar_of_ascii (h : c.toNat < 128) : lowerChar c = [c.toLower] := by
  rw [lowerChar,if_neg (by omega),find?_caseRuns h]
  by_cases hupper : c.isUpper
  · rw [if_pos hupper,Char.toLower_eq_of_isUpper hupper]
    rfl
  · rw [if_neg hupper,Char.toLower_eq_of_not_isUpper hupper]

/-- Of the runs outside ASCII, a single letter goes back into it: the sign for kelvin. -/
lemma distance_of_caseRuns : ∀ run ∈ caseRuns, run.last < 128 ∨ 128 ≤ run.first + run.distance ∨
    (run.first = run.last ∧ run.first + run.distance = 'k'.toNat) := by decide +kernel

lemma toLower_of_le (h : 128 ≤ c.toNat) : c.toLower = c := by
  refine Char.toLower_eq_of_not_isUpper ?_
  rw [isUpper_iff]
  omega

/-- The lower form of a letter outside ASCII may start with this character. The dotted I and the sign for
kelvin are the only such letters with a small letter of ASCII in their lower form. -/
def Foreign (d : Char) : Prop := d.isLower = true → d = 'i' ∨ d = 'k'

lemma foreign_of_le (h : 128 ≤ c.toNat) : Foreign c := by
  intro hlower
  have hrange := isLower_iff.mp hlower
  omega

lemma foreign_ofNat {n : Nat} (h : 128 ≤ n) : Foreign (Char.ofNat n) := by
  by_cases hvalid : n.isValidChar
  · refine foreign_of_le ?_
    rwa [Char.toNat_ofNat,if_pos hvalid]
  · intro hlower
    rw [isLower_iff,Char.toNat_ofNat,if_neg hvalid] at hlower
    omega

lemma exists_lowerChar (h : 128 ≤ c.toNat) : ∃ d more, lowerChar c = d :: more ∧ Foreign d := by
  unfold lowerChar
  split
  · exact ⟨'i',_,rfl,fun _ => Or.inl rfl⟩
  · split
    · next run hrun =>
      refine ⟨_,[],rfl,?_⟩
      have hcovers := List.find?_some hrun
      simp only [CaseRun.covers,Bool.and_eq_true,decide_eq_true_eq] at hcovers
      rcases distance_of_caseRuns run (List.mem_of_find?_eq_some hrun) with hlast | hfar | ⟨hone,hk⟩
      · omega
      · exact foreign_ofNat (by omega)
      · have hc : (c.toNat + run.distance).toNat = 'k'.toNat := by omega
        rw [hc]
        exact fun _ => Or.inr rfl
    · exact ⟨c,[],rfl,foreign_of_le h⟩

lemma exists_lowerFrom (h : 128 ≤ c.toNat) (before rest : List Char) :
    ∃ d more, lowerFrom before (c :: rest) = d :: more ∧ Foreign d := by
  rw [lowerFrom]
  split
  · split
    · exact ⟨_,_,rfl,foreign_ofNat (by decide)⟩
    · exact ⟨_,_,rfl,foreign_ofNat (by decide)⟩
  · obtain ⟨d,more,hd,hforeign⟩ := exists_lowerChar h
    exact ⟨d,_,by rw [hd,List.cons_append],hforeign⟩

/-- A text without foreign letters is the lower case of texts in ASCII only, with other capitals. -/
theorem lowerFrom_eq_iff {small : List Char} (hsmall : ∀ d ∈ small, ¬Foreign d) (before name : List Char) :
    lowerFrom before name = small ↔ name.map Char.toLower = small := by
  -- A letter outside ASCII stands in the way on both sides, with its lower form or as it is.
  induction name generalizing small before with
  | nil => rfl
  | cons c name ih =>
    by_cases hc : c.toNat < 128
    · have hlowered : lowerFrom before (c :: name) = c.toLower :: lowerFrom (c :: before) name := by
        rw [lowerFrom,if_neg (by omega),lowerChar_of_ascii hc,List.singleton_append]
      rw [hlowered,List.map_cons]
      cases small with
      | nil => simp
      | cons d small =>
        rw [List.cons.injEq,List.cons.injEq,ih fun e he => hsmall e (List.mem_cons_of_mem d he)]
    · have hle : 128 ≤ c.toNat := Nat.le_of_not_lt hc
      obtain ⟨d,more,hd,hforeign⟩ := exists_lowerFrom hle before name
      rw [hd,List.map_cons,toLower_of_le hle]
      constructor
      · rintro rfl
        exact absurd hforeign (hsmall d List.mem_cons_self)
      · rintro rfl
        exact absurd (foreign_of_le hle) (hsmall c List.mem_cons_self)

end Lowering

section Names

lemma Setting.ofName_eq_ok_iff_lowerCase {name : String} {setting : Setting} :
    Setting.ofName name = .ok setting ↔ lowerCase name = setting.name := by
  unfold Setting.ofName
  constructor
  · intro h
    dsimp only at h
    split at h
    · next found hfound =>
      cases h
      have hname := List.find?_some hfound
      exact (decide_eq_true_eq.mp hname).symm
    · cases h
  · intro h
    have hfind : Setting.all.find? (·.name = setting.name) = some setting := by cases setting <;> decide
    simp only [h,hfind]

lemma Setting.not_foreign (setting : Setting) : ∀ d ∈ setting.name.toList, ¬Foreign d := by
  cases setting <;> simp [Foreign,Setting.name]

/-- A name is that of a setting up to the case of letters of ASCII. -/
theorem Setting.ofName_eq_ok_iff {name : List Char} {setting : Setting} :
    Setting.ofName (String.ofList name) = .ok setting ↔ name.map Char.toLower = setting.name.toList := by
  rw [Setting.ofName_eq_ok_iff_lowerCase,← lowerFrom_eq_iff setting.not_foreign [],lowerCase,
    String.toList_ofList,← String.toList_inj,String.toList_ofList]

/-- The sign in front of the name of a setting that is to be switched on or off. -/
def sign (enabled : Bool) : Char := if enabled then '+' else '-'

lemma signed_eq_ok_iff {enabled wanted : Bool} {name : List Char} {setting : Setting} :
    Command.ofSwitch.signed enabled name = .ok (.set setting wanted) ↔
      enabled = wanted ∧ name.map Char.toLower = setting.name.toList := by
  rw [← Setting.ofName_eq_ok_iff,Command.ofSwitch.signed]
  split
  · next found hfound => simp [hfound,and_comm]
  · next lowered hlowered => simp [hlowered]

lemma ofSwitch_eq_ok_iff {word : List Char} {setting : Setting} {enabled : Bool} :
    Command.ofSwitch (String.ofList word) = .ok (.set setting enabled) ↔
      ∃ name, word = sign enabled :: name ∧ name.map Char.toLower = setting.name.toList := by
  rw [Command.ofSwitch,String.toList_ofList]
  split
  · rw [signed_eq_ok_iff]
    cases enabled <;> simp [sign]
  · rw [signed_eq_ok_iff]
    cases enabled <;> simp [sign]
  · next hplus hminus =>
    constructor
    · intro h
      cases h
    · rintro ⟨name,rfl,-⟩
      cases enabled with
      | false => exact absurd rfl (hminus name)
      | true => exact absurd rfl (hplus name)

end Names

/-- The words of the line are `:set`, and a sign with the name of the setting in small or capital letters. -/
def Switches (line : String) (setting : Setting) (enabled : Bool) : Prop :=
  ∃ name : List Char, words line = [":set",String.ofList (sign enabled :: name)] ∧
    name.map Char.toLower = setting.name.toList

section Lines

variable {line : String} {setting : Setting} {enabled : Bool}

lemma switches_iff : Switches line setting enabled ↔ Session.switch? line = some (setting,enabled) := by
  rw [Session.switch?]
  constructor
  · rintro ⟨name,hwords,hname⟩
    simp only [hwords,ofSwitch_eq_ok_iff.mpr ⟨name,rfl,hname⟩]
  · intro h
    split at h
    · next word hwords =>
      split at h
      · next hswitch =>
        cases h
        rw [← String.ofList_toList (s := word),ofSwitch_eq_ok_iff] at hswitch
        obtain ⟨name,hword,hname⟩ := hswitch
        exact ⟨name,by rw [hwords,← hword,String.ofList_toList],hname⟩
      · cases h
    · cases h

lemma Switches.ascii (h : Switches line setting enabled) :
    ∀ word ∈ words line, ∀ c ∈ word.toList, c.toNat < 128 := by
  obtain ⟨name,hwords,hname⟩ := h
  have hset : ∀ c ∈ ":set".toList, c.toNat < 128 := by simp
  have hsign : (sign enabled).toNat < 128 := by cases enabled <;> decide
  have hletters : ∀ c ∈ name, c.toNat < 128 := by
    intro c hc
    by_contra hle
    have hmem : c.toLower ∈ setting.name.toList := by
      rw [← hname]
      exact List.mem_map_of_mem hc
    rw [toLower_of_le (by omega)] at hmem
    exact setting.not_foreign c hmem (foreign_of_le (by omega))
  intro word hword
  rw [hwords] at hword
  simp only [List.mem_cons,List.not_mem_nil,or_false] at hword
  rcases hword with rfl | rfl
  · exact hset
  · rw [String.toList_ofList]
    exact List.forall_mem_cons.mpr ⟨hsign,hletters⟩

/-- A word that is begun goes on to the next white space. -/
lemma exists_wordsFrom {word : List Char} (hne : word ≠ []) (text : List Char) :
    ∃ tail more, wordsFrom word text = (word.reverse ++ tail) :: more := by
  induction text generalizing word with
  | nil => exact ⟨[],[],by simp [wordsFrom,hne]⟩
  | cons c text ih =>
    rw [wordsFrom]
    split
    · exact ⟨[],wordsFrom [] text,by simp [hne]⟩
    · obtain ⟨tail,more,hmore⟩ := ih (List.cons_ne_nil c word)
      exact ⟨c :: tail,more,by rw [hmore]; simp⟩

/-- The first character that is no white space tells whether a line is a command. -/
lemma isCommand_words {space tail : List Char} {c : Char} (hline : line.toList = space ++ c :: tail)
    (hspace : space.all isSpace = true) (hc : isSpace c = false) :
    Command.isCommand (words line) = decide (c = ':') := by
  obtain ⟨rest,more,hmore⟩ := exists_wordsFrom (List.cons_ne_nil c []) tail
  have hwords : wordsFrom [] line.toList = (c :: rest) :: more := by
    rw [hline,Session.wordsFrom_white_append hspace,wordsFrom,hc]
    exact hmore
  simp [words,hwords,Command.isCommand]

lemma isSpace_of_isWordChar {c : Char} (h : isWordChar c = true) : isSpace c = false := by
  obtain ⟨hlow,hhigh⟩ := toNat_of_isWordChar h
  simp only [isSpace,Bool.or_eq_false_iff,Bool.and_eq_false_iff,decide_eq_false_iff_not]
  omega

lemma isSpace_of_ofChar {c : Char} {kind : FactorKind} (h : FactorKind.ofChar c = some kind) :
    isSpace c = false ∧ c ≠ ':' := by
  constructor
  · unfold FactorKind.ofChar at h
    split at h
    · next hminus => rw [hminus]; decide
    · split at h
      · next hopen => rw [hopen]; decide
      · split at h
        · next hdigit => exact isSpace_of_isWordChar (isWordChar_of_isDigit hdigit)
        · split at h
          · next hletter => exact isSpace_of_isWordChar (isWordChar_of_isLetter hletter)
          · cases h
  · rintro rfl
    have hnone : FactorKind.ofChar ':' = none := by decide
    rw [hnone] at h
    cases h

/-- Whatever is derived starts as a factor does. -/
lemma exists_first_factor {s : Symbol} (d : Derivation s) : ∃ (gap : Gap) (c : Char) (tail : List Char)
    (kind : FactorKind), d.text = gap.chars ++ c :: tail ∧ FactorKind.ofChar c = some kind := by
  have factor (d : Derivation .factor) : ∃ (gap : Gap) (c : Char) (tail : List Char) (kind : FactorKind),
      d.text = gap.chars ++ c :: tail ∧ FactorKind.ofChar c = some kind := by
    obtain ⟨gap,c,tail,htext,-,hkind⟩ := d.exists_head
    exact ⟨gap,c,tail,d.kind,htext,hkind⟩
  induction d with
  | number gap numeral => exact factor (.number gap numeral)
  | identifier gap word => exact factor (.identifier gap word)
  | negation gap operand => exact factor (.negation gap operand)
  | parentheses gap inner close => exact factor (.parentheses gap inner close)
  | single operand ih => exact ih
  | more left gap operator member right ih =>
    obtain ⟨first,c,tail,kind,htext,hkind⟩ := ih
    exact ⟨first,c,_,kind,by rw [Derivation.text,htext,List.append_assoc,List.cons_append],hkind⟩

/-- A line that is read as an expression is no command. -/
lemma command?_of_parse {limit : Limit} {tree : Expr} (h : parse limit line = .ok tree) :
    Session.command? line = none := by
  obtain ⟨sentence,hsentence,-⟩ := sentence_of_parseText h
  obtain ⟨gap,c,tail,kind,htext,hkind⟩ := exists_first_factor sentence.body
  obtain ⟨hc,hcolon⟩ := isSpace_of_ofChar hkind
  have hline : line.toList = gap.chars ++ c :: (tail ++ sentence.gap.chars) := by
    rw [hsentence,Sentence.text,htext,List.append_assoc,List.cons_append]
  have hspace : gap.chars.all isSpace = true := by
    rw [List.all_eq_true]
    exact fun space hmem => isSpace_of_isBlank (gap.blank space hmem)
  simp [Session.command?,isCommand_words hline hspace hc,hcolon]

end Lines

/-- A line whose words are those of a switch is carried out, sets this one setting and leaves the other alone,
and all its words are in ASCII. Every other line leaves all settings as they were, whatever comes of it. What
can be read as an expression, under any limit, is read and not carried out. -/
theorem dispatch_sets_only_by_switch (settings : Settings) (line : String) :
    (∀ setting enabled, Switches line setting enabled →
      (settings.dispatch line).result = .ok .handled ∧
      (∀ other, (settings.dispatch line).settings.get? other =
        if other = setting then some enabled else settings.get? other) ∧
      ∀ word ∈ words line, ∀ c ∈ word.toList, c.toNat < 128) ∧
    ((∀ setting enabled, ¬Switches line setting enabled) → (settings.dispatch line).settings = settings) ∧
    ∀ limit tree, parse limit line = .ok tree → (settings.dispatch line).result = .ok .source := by
  refine ⟨?_,?_,?_⟩
  · intro setting enabled h
    have hswitch := switches_iff.mp h
    refine ⟨?_,?_,h.ascii⟩
    · rw [Session.dispatch_eq,Session.switch?_eq_some_iff.mp hswitch]
      rfl
    · intro other
      rw [Session.settings_dispatch,Session.leaves,hswitch]
      exact settings.get?_set setting other enabled
  · intro h
    rw [Session.settings_dispatch,Session.leaves]
    split
    · next setting enabled hswitch => exact absurd (switches_iff.mpr hswitch) (h setting enabled)
    · rfl
  · intro limit tree h
    rw [Session.dispatch_eq,command?_of_parse h]

/-- A switch between ideographic spaces, in mixed letters, a name that only seems to be that of a setting, and
an expression with a sign in front. -/
theorem dispatch_sets_only_by_switch_debug :
    (Settings.standard.dispatch "\u3000:set\u3000+DeBuG").result = .ok .handled ∧
    (Settings.standard.dispatch "\u3000:set\u3000+DeBuG").settings.get? .debug = some true ∧
    (Settings.standard.dispatch "\u3000:set\u3000+DeBuG").settings.get? .color = some true ∧
    (Settings.standard.dispatch ":set +\u24B9ebug").settings = .standard ∧
    (Settings.standard.dispatch "-(x)").result = .ok .source := by
  have hswitch : Switches "\u3000:set\u3000+DeBuG" .debug true := ⟨"DeBuG".toList,by decide,by decide⟩
  obtain ⟨hhandled,hset,-⟩ := (dispatch_sets_only_by_switch .standard _).1 .debug true hswitch
  have hcircled (setting : Setting) (enabled : Bool) : ¬Switches ":set +\u24B9ebug" setting enabled := by
    have hnone : Session.switch? ":set +\u24B9ebug" = none := by decide
    rw [switches_iff,hnone]
    exact Option.some_ne_none _ ∘ Eq.symm
  refine ⟨hhandled,hset .debug,hset .color,(dispatch_sets_only_by_switch .standard _).2.1 hcircled,?_⟩
  exact (dispatch_sets_only_by_switch .standard "-(x)").2.2 .standard
    (.negate (.identifier "x" ⟨1,3⟩) ⟨1,1⟩) (by decide +kernel)

end Formula

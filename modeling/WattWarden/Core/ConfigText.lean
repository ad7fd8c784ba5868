import WattWarden.Core.Config
import WattWarden.Library.Records
import WattWarden.Library.SharedText
import WattWarden.Library.Tenths

/-!
# The text of the configuration file

`to_string_pretty` of the nine fields in their order, with the names the source gives the profiles
and the levels, and a reader of such texts.

* `Config.toStringPretty` / `Config.fromStr` — the text and its reader;
* `Config.fromStr_toStringPretty` — **PROVED**: a saved configuration is read back;
* `Config.format` — **PROVED**: a text is read as a whole or not at all.
-/

namespace WattWarden

open Library.DigitRuns Library.Numerals Library.Records Library.SharedText Library.TextSearch
  Library.Tenths

/-! ### Values -/

/-- The names of `#[serde(rename)]`. -/
def PowerProfile.jsonName : PowerProfile → String
  | normal => "Normal"
  | performance => "Performance"
  | extreme => "Extreme"
  | autoExtreme => "Auto Extreme"

def AutoExtremeLevel.jsonName : AutoExtremeLevel → String
  | low => "low"
  | medium => "medium"
  | high => "high"

def quoted (text : String) : String := "\"" ++ text ++ "\""

/-- An absent value is `null`. -/
def orNull (text : Option String) : String := text.getD "null"

namespace Config

/-- The fields, in the order of the source. -/
def members (c : Config) : List (String × String) :=
  [("auto_extreme_enabled", toString c.autoExtremeEnabled),
    ("auto_extreme_level", quoted c.autoExtremeLevel.jsonName),
    ("auto_brightness", toString c.autoBrightness),
    ("profile", orNull (c.profile.map fun p => quoted p.jsonName)),
    ("battery_charge_limit", orNull (c.batteryChargeLimit.map decimal)),
    ("battery_health_log", toString c.batteryHealthLog),
    ("battery_temp_warn_c", orNull (c.batteryTempWarnC.map decimal)),
    ("terminal_brightness", decimal c.terminalBrightness),
    ("gui_brightness", decimal c.guiBrightness)]

/-- One member, on a line of its own. -/
def memberChars (m : String × String) : List Char :=
  '\n' :: ' ' :: ' ' :: (quoted m.1).toList ++ ':' :: ' ' :: m.2.toList

/-- Members with commas between them. -/
def membersChars : List (String × String) → List Char
  | [] => []
  | m :: ms => memberChars m ++ ms.flatMap fun m => ',' :: memberChars m

/-- `serde_json::to_string_pretty` -/
def toStringPretty (c : Config) : List Char := '{' :: membersChars c.members ++ ['\n', '}']

/-! ### The reader -/

/-- The one of finitely many values that is printed so. -/
def readOneOf {α : Type} (values : List α) (print : α → String) (text : String) : Option α :=
  values.find? fun a => decide (print a = text)

def readBool : String → Option Bool := readOneOf [false, true] toString

def readLevel : String → Option AutoExtremeLevel :=
  readOneOf [.low, .medium, .high] fun l => quoted l.jsonName

def readProfile : String → Option (Option PowerProfile) :=
  readOneOf [none, some .normal, some .performance, some .extreme, some .autoExtreme] fun chosen =>
    orNull (chosen.map fun p => quoted p.jsonName)

def readNumber (text : String) : Option ℕ := parseDigits text.toList

def readLimit (text : String) : Option (Option ℕ) :=
  if text = "null" then some none else (readNumber text).map some

/-- The value of a member. -/
def valueOf (part : List Char) : Option String :=
  (splitOnce ':' part).map fun halves => String.ofList halves.2.tail

/-- The configuration with these values. -/
def ofValues : List String → Option Config
  | [enabled, level, brightness, profile, limit, log, warn, terminal, gui] => do
      return {
        autoExtremeEnabled := ← readBool enabled
        autoExtremeLevel := ← readLevel level
        autoBrightness := ← readBool brightness
        profile := ← readProfile profile
        batteryChargeLimit := ← readLimit limit
        batteryHealthLog := ← readBool log
        batteryTempWarnC := ← readLimit warn
        terminalBrightness := ← readNumber terminal
        guiBrightness := ← readNumber gui }
  | _ => none

/-- The configuration whose text this is. -/
def fromStr (text : List Char) : Option Config :=
  (((text.tail.dropLast.dropLast.splitOn ',').mapM valueOf).bind ofValues).filter fun c =>
    decide (c.toStringPretty = text)

/-! ### Round trip -/

theorem readBool_toString (b : Bool) : readBool (toString b) = some b := by
  cases b <;> decide

theorem readLevel_quoted (l : AutoExtremeLevel) : readLevel (quoted l.jsonName) = some l := by
  cases l <;> decide

theorem readProfile_orNull (chosen : Option PowerProfile) :
    readProfile (orNull (chosen.map fun p => quoted p.jsonName)) = some chosen := by
  cases chosen with
  | none => decide
  | some p => cases p <;> decide

theorem readNumber_decimal (n : ℕ) : readNumber (decimal n) = some n := parseDigits_decimal n

theorem readLimit_orNull (limit : Option ℕ) :
    readLimit (orNull (limit.map decimal)) = some limit := by
  cases limit with
  | none => decide
  | some n =>
    have hne : decimal n ≠ "null" := by
      intro heq
      have hnull : parseDigits "null".toList = none := by decide
      rw [← heq, parseDigits_decimal] at hnull
      cases hnull
    show (if decimal n = "null" then _ else (readNumber (decimal n)).map some) = _
    rw [if_neg hne, readNumber_decimal]
    rfl

/-- Neither a key nor a value contains a separator or a brace. -/
def Plain (text : String) : Prop := ∀ x ∈ text.toList, x ≠ ',' ∧ x ≠ '}' ∧ x ≠ ':'

instance (text : String) : Decidable (Plain text) :=
  List.decidableBAll (fun x => x ≠ ',' ∧ x ≠ '}' ∧ x ≠ ':') text.toList

theorem plain_decimal (n : ℕ) : Plain (decimal n) := by
  intro x hx
  have hdigit : x.isDigit = true := isDigit_of_mem_decimal hx
  refine ⟨?_, ?_, ?_⟩ <;> rintro rfl <;> cases hdigit

theorem plain_limit (limit : Option ℕ) : Plain (orNull (limit.map decimal)) := by
  cases limit with
  | none => decide
  | some n => exact plain_decimal n

theorem plain_members (c : Config) : ∀ m ∈ c.members, Plain m.1 ∧ Plain m.2 := by
  have hbool : ∀ b : Bool, Plain (toString b) := by
    intro b
    cases b <;> decide
  have hlevel : ∀ l : AutoExtremeLevel, Plain (quoted l.jsonName) := by
    intro l
    cases l <;> decide
  have hprofile : Plain (orNull (c.profile.map fun p => quoted p.jsonName)) := by
    cases c.profile with
    | none => decide
    | some p => cases p <;> decide
  have hkeys : ∀ key ∈ c.members.map Prod.fst, Plain key := by
    show ∀ key ∈ ["auto_extreme_enabled", "auto_extreme_level", "auto_brightness", "profile",
      "battery_charge_limit", "battery_health_log", "battery_temp_warn_c", "terminal_brightness",
      "gui_brightness"], Plain key
    decide
  have hvalues : ∀ value ∈ c.members.map Prod.snd, Plain value := by
    intro value hvalue
    simp only [members, List.map_cons, List.map_nil, List.mem_cons, List.not_mem_nil, or_false]
      at hvalue
    rcases hvalue with rfl | rfl | rfl | rfl | rfl | rfl | rfl | rfl | rfl
    · exact hbool _
    · exact hlevel _
    · exact hbool _
    · exact hprofile
    · exact plain_limit _
    · exact hbool _
    · exact plain_limit _
    · exact plain_decimal _
    · exact plain_decimal _
  intro m hm
  exact ⟨hkeys m.1 (List.mem_map_of_mem hm), hvalues m.2 (List.mem_map_of_mem hm)⟩

/-- A member contains what its key and its value contain, and its own punctuation. -/
theorem mem_memberChars {m : String × String} {x : Char} (hx : x ∈ memberChars m) :
    x ∈ m.1.toList ∨ x ∈ m.2.toList ∨ x ∈ ['\n', ' ', '"', ':'] := by
  have hlist : memberChars m
      = '\n' :: ' ' :: ' ' :: '"' :: m.1.toList ++ '"' :: ':' :: ' ' :: m.2.toList := by
    simp [memberChars, quoted]
  rw [hlist] at hx
  simp only [List.cons_append, List.mem_cons, List.mem_append] at hx
  simp only [List.mem_cons, List.not_mem_nil, or_false]
  tauto

/-- A member is read back. -/
theorem valueOf_memberChars {m : String × String} (h : Plain m.1) :
    valueOf (memberChars m) = some m.2 := by
  have hcolon : ':' ∉ '\n' :: ' ' :: ' ' :: (quoted m.1).toList := by
    have hkey : ':' ∉ m.1.toList := fun hx => (h _ hx).2.2 rfl
    simp [quoted, hkey]
  have hsplit : splitOnce ':' (memberChars m)
      = some ('\n' :: ' ' :: ' ' :: (quoted m.1).toList, ' ' :: m.2.toList) :=
    splitOnce_eq_some_iff.mpr ⟨rfl, hcolon⟩
  rw [valueOf, hsplit]
  simp

theorem comma_not_mem {m : String × String} (h : Plain m.1 ∧ Plain m.2) : ',' ∉ memberChars m := by
  intro hx
  rcases mem_memberChars hx with hkey | hvalue | hown
  · exact (h.1 _ hkey).1 rfl
  · exact (h.2 _ hvalue).1 rfl
  · exact absurd hown (by decide)

/-- The members are read back. -/
theorem mapM_valueOf {m : String × String} {ms : List (String × String)}
    (h : ∀ m' ∈ m :: ms, Plain m'.1 ∧ Plain m'.2) :
    ((membersChars (m :: ms)).splitOn ',').mapM valueOf = some ((m :: ms).map Prod.snd) := by
  have hparts : ∀ part ∈ ms.map memberChars, ',' ∉ part := by
    intro part hpart
    obtain ⟨m', hm', rfl⟩ := List.mem_map.mp hpart
    exact comma_not_mem (h m' (List.mem_cons_of_mem _ hm'))
  have hchars : membersChars (m :: ms)
      = memberChars m ++ (ms.map memberChars).flatMap fun part => ',' :: part := by
    rw [membersChars, List.flatMap_map]
  have hsplit : (membersChars (m :: ms)).splitOn ',' = (m :: ms).map memberChars := by
    rw [hchars, splitOn_flatMap (comma_not_mem (h m (by simp))) hparts]
    rfl
  rw [hsplit]
  generalize m :: ms = all at h
  induction all with
  | nil => rfl
  | cons m' rest ih =>
    rw [List.forall_mem_cons] at h
    rw [List.map_cons, List.mapM_cons, valueOf_memberChars h.1.1, ih h.2]
    rfl

theorem ofValues_members (c : Config) : ofValues (c.members.map Prod.snd) = some c := by
  simp only [members, List.map_cons, List.map_nil, ofValues, readBool_toString, readLevel_quoted,
    readProfile_orNull, readLimit_orNull, readNumber_decimal, Option.bind_eq_bind, Option.bind_some]
  rfl

/-- **A saved configuration is read back.** -/
theorem fromStr_toStringPretty (c : Config) : fromStr c.toStringPretty = some c := by
  have hend : membersChars c.members ++ ['\n', '}']
      = membersChars c.members ++ ['\n'] ++ ['}'] := by simp
  have hinner : c.toStringPretty.tail.dropLast.dropLast = membersChars c.members := by
    rw [toStringPretty, List.cons_append, List.tail_cons, hend, List.dropLast_concat,
      List.dropLast_concat]
  have hvalues : ((membersChars c.members).splitOn ',').mapM valueOf
      = some (c.members.map Prod.snd) := mapM_valueOf (plain_members c)
  rw [fromStr, hinner, hvalues, Option.bind_some, ofValues_members]
  simp [Option.filter]

/-! ### A text is read as a whole or not at all -/

/-- There is one closing brace in a text, its last character. -/
theorem count_toStringPretty (c : Config) : c.toStringPretty.count '}' = 1 := by
  have hmembers : '}' ∉ membersChars c.members := by
    have hmember : ∀ m ∈ c.members, '}' ∉ memberChars m := by
      intro m hm hx
      obtain ⟨hkey, hvalue⟩ := plain_members c m hm
      rcases mem_memberChars hx with hx | hx | hx
      · exact (hkey _ hx).2.1 rfl
      · exact (hvalue _ hx).2.1 rfl
      · exact absurd hx (by decide)
    generalize c.members = ms at hmember
    intro hx
    cases ms with
    | nil => cases hx
    | cons m ms =>
      rw [List.forall_mem_cons] at hmember
      rw [membersChars, List.mem_append, List.mem_flatMap] at hx
      rcases hx with hx | ⟨m', hm', hx⟩
      · exact hmember.1 hx
      · rcases List.mem_cons.mp hx with hcomma | hx
        · exact absurd hcomma (by decide)
        · exact hmember.2 m' hm' hx
  have hnone : (membersChars c.members).count '}' = 0 := List.count_eq_zero.mpr hmembers
  simp [toStringPretty, hnone]

theorem getLast_toStringPretty (c : Config) : c.toStringPretty.getLast? = some '}' := by
  rw [toStringPretty, List.getLast?_append]
  rfl

theorem toStringPretty_of_fromStr {text : List Char} {c : Config} (h : fromStr text = some c) :
    c.toStringPretty = text := by
  rw [fromStr, Option.filter_eq_some_iff] at h
  exact of_decide_eq_true h.2

theorem fromStr_trailing (c : Config) {rest : List Char} (h : rest ≠ []) :
    fromStr (c.toStringPretty ++ rest) = none := by
  rw [Option.eq_none_iff_forall_ne_some]
  intro c' hread
  have htext := toStringPretty_of_fromStr hread
  have hlast : rest.getLast? = some '}' := by
    have hall := getLast_toStringPretty c'
    rw [htext, List.getLast?_append] at hall
    cases hrest : rest.getLast? with
    | none => exact absurd (List.getLast?_eq_none_iff.mp hrest) h
    | some x =>
      rw [hrest] at hall
      exact hall
  have hcount := count_toStringPretty c'
  rw [htext, List.count_append, count_toStringPretty] at hcount
  have hmem : 0 < rest.count '}' := List.count_pos_iff.mpr (List.mem_of_getLast? hlast)
  omega

/-- The text of the configuration, as a format. -/
def format : Format Config Char where
  encode := toStringPretty
  decode := fromStr
  blank x := x.isWhitespace = true
  decode_encode := fromStr_toStringPretty
  decode_nil := by decide
  decode_trailing c rest h := by
    obtain ⟨x, hx, -⟩ := h
    exact fromStr_trailing c (List.ne_nil_of_mem hx)
  last_not_blank c := ⟨'}', getLast_toStringPretty c, by decide⟩

end Config

end WattWarden

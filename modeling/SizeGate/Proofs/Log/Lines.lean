import Mathlib.Data.List.Forall2
import Mathlib.Tactic.SplitIfs
import SizeGate.Log.Filter
import SizeGate.Proofs.Text.Utf8

/-!
The lines of a log.

`Says` gives the words of an event and `StandsAs` the line that they stand in, each with its texts
as they are written and with no word on how they are put together. Main statements: the line of an
event stands as it should (`standsAs_line`), with colors unless the environment asks for none
(`styled_ofEnvironment_iff`).
-/

namespace SizeGate

namespace Text

/-- A text whose characters are written one by one. -/
def WrittenAs (how : Char → String → Prop) (text written : String) : Prop :=
  ∃ parts, List.Forall₂ how text.toList parts ∧ written = String.join parts

/-- How a character is written between double quotes. -/
inductive Quotes : Char → String → Prop where
  | quote : Quotes '"' "\\\""
  | backslash : Quotes '\\' "\\\\"
  | lineFeed : Quotes '\n' "\\n"
  | carriageReturn : Quotes '\r' "\\r"
  | tab : Quotes '\t' "\\t"
  | null : Quotes '\x00' "\\0"
  | unprintable {c : Char} : c ∉ ['\n', '\r', '\t', '\x00'] → isUnprintable c = true →
      Quotes c ("\\u\x7b" ++ String.ofList (Nat.toDigits 16 c.toNat) ++ "\x7d")
  | printable {c : Char} : c ∉ ['"', '\\'] → isUnprintable c = false → Quotes c c.toString

theorem writtenAs_map {how : Char → String → Prop} {write : Char → String}
    (h : ∀ c, how c (write c)) (text : String) :
    WrittenAs how text (String.join (text.toList.map write)) := by
  refine ⟨_, ?_, rfl⟩
  rw [List.forall₂_map_right_iff, List.forall₂_same]
  exact fun c _ => h c

theorem quotes_quoteChar (c : Char) : Quotes c (quoteChar c) := by
  simp only [quoteChar]
  split_ifs with hquote hbackslash hline hreturn htab hnull hunprintable
  · exact hquote ▸ .quote
  · exact hbackslash ▸ .backslash
  · exact hline ▸ .lineFeed
  · exact hreturn ▸ .carriageReturn
  · exact htab ▸ .tab
  · exact hnull ▸ .null
  · exact .unprintable (by simp [hline, hreturn, htab, hnull]) hunprintable
  · exact .printable (by simp [hquote, hbackslash]) (by simpa using hunprintable)

end Text

namespace Terminal

/-- How a character is written where a terminal is not to act on it: a control that it would act on
by its number, and any other as it is. -/
inductive Spells : Char → String → Prop where
  | escape : Spells '\x1b' "\\x1b"
  | bell : Spells '\x07' "\\x07"
  | backspace : Spells '\x08' "\\x08"
  | formFeed : Spells '\x0c' "\\x0c"
  | delete : Spells '\x7f' "\\x7f"
  | control {c : Char} : 0x80 ≤ c.toNat → c.toNat ≤ 0x9F →
      Spells c ("\\u\x7b" ++ String.ofList (Nat.toDigits 16 c.toNat) ++ "\x7d")
  | shown {c : Char} : c ∉ ['\x1b', '\x07', '\x08', '\x0c', '\x7f'] →
      c.toNat < 0x80 ∨ 0x9F < c.toNat → Spells c c.toString

theorem spells_spellChar (c : Char) : Spells c (spellChar c) := by
  simp only [spellChar]
  split_ifs with hescape hbell hbackspace hfeed hdelete hcontrol
  · exact hescape ▸ .escape
  · exact hbell ▸ .bell
  · exact hbackspace ▸ .backspace
  · exact hfeed ▸ .formFeed
  · exact hdelete ▸ .delete
  · exact .control hcontrol.1 hcontrol.2
  · exact .shown (by simp [hescape, hbell, hbackspace, hfeed, hdelete]) (by omega)

end Terminal

namespace Log

namespace Event

/-- The artifact of a config, if it has one, by its quoted path. -/
inductive TellsArtifact : Option Path → String → Prop where
  | none : TellsArtifact none "None"
  | some {path : Path} {quoted : String} : Text.WrittenAs Text.Quotes path.display quoted →
      TellsArtifact (some path) ("Some(" ++ ("\"" ++ quoted ++ "\"") ++ ")")

inductive TellsFormat : Option Format → String → Prop where
  | none : TellsFormat none "None"
  | text : TellsFormat (some .text) "Some(Text)"
  | json : TellsFormat (some .json) "Some(Json)"

/-- The words of an event. -/
inductive Says : Event → String → Prop where
  | loadingConfig (path : Path) :
      Says (.loadingConfig path) ("loading config from " ++ path.display)
  | noConfig : Says .noConfig "no config found, using defaults"
  | parsedConfig {path : Path} {config : Config} {artifact format : String} :
      TellsArtifact config.artifact artifact → TellsFormat config.format format →
      Says (.parsedConfig path config)
        ("parsed " ++ path.display ++ ": artifact=" ++ artifact ++ " format=" ++ format)
  | checkingArtifact (path : Path) :
      Says (.checkingArtifact path) ("checking artifact " ++ path.display)
  | measured (path : Path) (size : UInt64) :
      Says (.measured path size)
        ("measured " ++ path.display ++ ": " ++ Decimal.ofNat size.toNat ++ " bytes ("
          ++ ByteCount.text size.toNat ++ ")")
  | fits {verdict : Verdict} : verdict.size.toNat ≤ verdict.budget.limit.toNat →
      Says (.judged verdict) ("verdict: within_budget=true headroom="
        ++ Decimal.ofInt (verdict.budget.limit.toNat - verdict.size.toNat) ++ " bytes")
  | exceeds {verdict : Verdict} : verdict.budget.limit.toNat < verdict.size.toNat →
      Says (.judged verdict) ("verdict: within_budget=false headroom="
        ++ Decimal.ofInt (verdict.budget.limit.toNat - verdict.size.toNat) ++ " bytes")

/-- The line of an event: the time, the level, and the words. In color only the time and the level
are set off. -/
inductive StandsAs (event : Event) (time : String) : Bool → String → Prop where
  | plain {words spelled : String} : event.Says words →
      Text.WrittenAs Terminal.Spells words spelled →
      StandsAs event time false (time ++ " DEBUG " ++ spelled ++ "\n")
  | styled {words spelled : String} : event.Says words →
      Text.WrittenAs Terminal.Spells words spelled →
      StandsAs event time true
        ("\x1b[2m" ++ time ++ "\x1b[0m \x1b[34mDEBUG\x1b[0m " ++ spelled ++ "\n")

theorem tellsArtifact_setting (artifact : Option Path) :
    TellsArtifact artifact (setting (artifact.map fun path => Text.quote path.display)) := by
  cases artifact with
  | none => exact .none
  | some path => exact .some (Text.writtenAs_map Text.quotes_quoteChar path.display)

theorem tellsFormat_setting (format : Option Format) :
    TellsFormat format (setting (format.map formatName)) := by
  rcases format with _ | _ | _
  · exact .none
  · exact .text
  · exact .json

theorem says_message (event : Event) : event.Says event.message := by
  cases event with
  | loadingConfig path => exact .loadingConfig path
  | noConfig => exact .noConfig
  | parsedConfig path config =>
    exact .parsedConfig (tellsArtifact_setting _) (tellsFormat_setting _)
  | checkingArtifact path => exact .checkingArtifact path
  | measured path size => exact .measured path size
  | judged verdict =>
    have hfits : verdict.fits = true ↔ verdict.size.toNat ≤ verdict.budget.limit.toNat := by
      rw [Verdict.fits, decide_eq_true_iff, UInt64.le_iff_toNat_le]
    have hmessage : message (.judged verdict) =
        "verdict: within_budget=" ++ (if verdict.fits = true then "true" else "false")
          ++ " headroom=" ++ Decimal.ofInt verdict.headroom ++ " bytes" := rfl
    have hwithin : "verdict: within_budget=" ++ (if true = true then "true" else "false")
        ++ " headroom=" = "verdict: within_budget=true headroom=" := by decide
    have hbeyond : "verdict: within_budget=" ++ (if false = true then "true" else "false")
        ++ " headroom=" = "verdict: within_budget=false headroom=" := by decide
    cases hverdict : verdict.fits with
    | true =>
      rw [hmessage, hverdict, hwithin, Verdict.headroom]
      exact .fits (hfits.mp hverdict)
    | false =>
      rw [hmessage, hverdict, hbeyond, Verdict.headroom]
      exact .exceeds (Nat.lt_of_not_le fun hle => by simp [hfits.mpr hle] at hverdict)

theorem standsAs_line (event : Event) (styled : Bool) (time : String) :
    event.StandsAs time styled (event.line styled time) := by
  have hspelled := Text.writtenAs_map Terminal.spells_spellChar event.message
  cases styled with
  | false => exact .plain event.says_message hspelled
  | true => exact .styled event.says_message hspelled

end Event

/-- Lines are in color unless `NO_COLOR` holds a text with something in it. -/
theorem styled_ofEnvironment_iff (env : Environment) :
    (Logging.ofEnvironment env).styled = true ↔
      ∀ text : String, env.noColor = some (Utf8.encode text.toList) → text = "" := by
  have hstyled : (Logging.ofEnvironment env).styled =
      (env.noColor.bind Utf8.decode?).all (· = "") := rfl
  rw [hstyled]
  constructor
  · intro h text htext
    have hdecode := (Utf8.decode?_eq_some_iff _ text).mpr rfl
    rw [htext, Option.bind_some, hdecode] at h
    simpa using h
  · intro h
    cases hnoColor : env.noColor with
    | none => rfl
    | some bytes =>
      rw [Option.bind_some]
      cases hdecode : Utf8.decode? bytes with
      | none => rfl
      | some text =>
        obtain rfl := (Utf8.decode?_eq_some_iff _ _).mp hdecode
        simpa using h text hnoColor

end Log

end SizeGate

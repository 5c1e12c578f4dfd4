import VoiceChat.Settings
import VoiceChat.Table

/-!
# Logging setup

The severity from which messages are logged, looked up by its name without
regard to case, and the layout of a logged line. Texts are logged as they are
shown, in characters.
-/

namespace VoiceChat.Logging

instance : Coe Text String := ⟨Text.shown⟩

/-- What is logged of a table: its keys as they are shown. -/
instance {α : Type} : Coe (Table Text α) (Table String α) :=
  ⟨fun t => .ofList (t.entries.map fun e => (e.1.shown, e.2))⟩

/-- The severities that have a name. -/
def severities : List (String × Nat) :=
  [("CRITICAL", 50), ("FATAL", 50), ("ERROR", 40), ("WARNING", 30), ("WARN", 30), ("INFO", 20),
    ("DEBUG", 10), ("NOTSET", 0)]

/-- The severity of an unknown name. -/
def defaultSeverity : Nat := 20

/-- The capital of a letter, as far as capitals among the plain letters go: the
dotless i and the long s have plain capitals too. -/
def capital (c : Char) : Char :=
  if c = 'ı' then 'I' else if c = 'ſ' then 'S' else c.toUpper

def severity (level : String) : Nat :=
  let name := String.ofList (level.toList.map capital)
  ((severities.find? fun s => s.1 = name).map Prod.snd).getD defaultSeverity

def format : String := "%(asctime)s - %(name)s - %(levelname)s - %(message)s"

/-- How a program logs. -/
structure Setup where
  severity : Nat
  format : String
deriving DecidableEq, Repr

def setup (settings : Settings) : Setup := ⟨severity settings.logLevel, format⟩

end VoiceChat.Logging

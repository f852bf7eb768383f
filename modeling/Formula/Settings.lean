import Formula.Text.LowerCase

/-! Settings that can be switched on and off. One that was never set is off, and is not listed. -/
namespace Formula

inductive Setting where
  /-- Diagnostics in color. -/
  | color
  /-- Trees in outline, with positions, instead of the compact form. -/
  | debug
  deriving DecidableEq, Repr

namespace Setting

def name : Setting → String
  | color => "color"
  | debug => "debug"

def label : Setting → String
  | color => "Color"
  | debug => "Debug"

/-- All settings, in the order of their names. -/
def all : List Setting := [color, debug]

/-- A setting by its name, whatever the case of its letters. If there is none, the name in lower case. -/
def ofName (name : String) : Except String Setting :=
  let lowered := lowerCase name
  match all.find? (·.name = lowered) with
  | some setting => .ok setting
  | none => .error lowered

/-- What is said of a name that no setting has. -/
def unknownMessage (lowered : String) : String := "Unknown setting " ++ lowered

end Setting

structure Settings where
  color : Option Bool
  debug : Option Bool
  deriving DecidableEq, Repr

namespace Settings

def empty : Settings := ⟨none,none⟩

def standard : Settings := ⟨some true,some false⟩

def get? (settings : Settings) : Setting → Option Bool
  | .color => settings.color
  | .debug => settings.debug

def set (settings : Settings) (setting : Setting) (enabled : Bool) : Settings :=
  match setting with
  | .color => { settings with color := some enabled }
  | .debug => { settings with debug := some enabled }

theorem get?_set (settings : Settings) (setting other : Setting) (enabled : Bool) :
    (settings.set setting enabled).get? other =
      if other = setting then some enabled else settings.get? other := by
  cases setting <;> cases other <;> rfl

def enable (settings : Settings) (setting : Setting) : Settings := settings.set setting true

def disable (settings : Settings) (setting : Setting) : Settings := settings.set setting false

def isEnabled (settings : Settings) (setting : Setting) : Bool :=
  (settings.get? setting).getD false

/-- The settings that were ever set, sorted by name. -/
def toList (settings : Settings) : List (Setting × Bool) :=
  Setting.all.filterMap fun setting => (settings.get? setting).map (setting,·)

/-- The settings in one line. -/
def summary (settings : Settings) : String :=
  " ".intercalate (settings.toList.map fun (setting,enabled) =>
    setting.name ++ ": " ++ if enabled then "enabled" else "disabled")

end Settings
end Formula

/-!
# Colours on a terminal

Output is coloured on a terminal, unless the environment asks for plain text or for colours everywhere.
A variable of the environment is on if it has any value but `0`.
-/

namespace JsonShape

/-- Whether a variable is on; `none` if it is not set. -/
def isOn? (value : Option String) : Option Bool := value.map (· != "0")

/-- Whether output is coloured: a variable that forces colours wins over one that forbids them, and
without either it is a matter of the terminal and of the variable that allows them. -/
def usesColor (force forbid allow : Option String) (terminal : Bool) : Bool :=
  if isOn? force = some true then true
  else if (isOn? forbid).isSome then false
  else (isOn? allow).getD true && terminal

end JsonShape

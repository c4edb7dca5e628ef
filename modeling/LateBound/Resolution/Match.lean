import LateBound.HostType

/-!
# Fitting arguments to parameters

An argument fits a parameter strictly when its type is exactly that of the parameter or a subtype of
it, and leniently also when it can be converted: numbers into each other, and texts into primitives and
enum constants. Null fits everything but primitives.

Whether one type lies below another is asked of a function, which may keep a memory; arguments are
looked at in order and the first that does not fit ends the matter.
-/

namespace LateBound

/-- How exactly arguments must fit. -/
inductive MatchMode
  | strict
  | lenient
  deriving DecidableEq, Repr

variable {m : Type → Type} [Monad m]

def strictlyFits (subtype : String → String → m Bool) (arg : Tag) (param : ParamType) : m Bool :=
  match param, arg with
  | .any, _ => pure true
  | param, .null => pure !param.isPrimitive
  | .object expected, arg =>
    match arg.runtimeTypeName? with
    | some name => subtype name expected
    | none => pure false
  | param, arg => pure (param.exactTag? == some arg)

/-- Whether an argument can be converted to a parameter. -/
def converts (arg : Tag) (param : ParamType) : Bool :=
  match arg, param with
  | .str, .primitive _ | .str, .enum _ => true
  | arg, param => arg.isNumeric && param.isNumeric

def lenientlyFits (subtype : String → String → m Bool) (arg : Tag) (param : ParamType) : m Bool := do
  if ← strictlyFits subtype arg param then return true
  return converts arg param

def MatchMode.fits (mode : MatchMode) (subtype : String → String → m Bool) (arg : Tag)
    (param : ParamType) : m Bool :=
  match mode with
  | strict => strictlyFits subtype arg param
  | lenient => lenientlyFits subtype arg param

/-- Whether the arguments of a call fit the parameters of a member, one to one. -/
def Member.accepts (member : Member) (mode : MatchMode) (subtype : String → String → m Bool)
    (args : List Tag) : m Bool :=
  if member.params.length = args.length then
    (member.params.zip args).allM fun (param, arg) => mode.fits subtype arg param
  else pure false

end LateBound

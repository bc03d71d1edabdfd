import MarkupTemplate.Value.Basic

/-!
# The host program

A script is used in a host program, whose functions and tags it finds among its values. They may look at
whatever values they are given, but a closure stays closed to them: all they see of it is its name, how
deep it was defined and how many bindings it captured. What they do is a parameter, given once by an
instance of `Host`.
-/

namespace MarkupTemplate

/-- What is seen of a closure outside its script. -/
structure Shown where
  name : String
  /-- The depth of the place of its definition. -/
  depth : Nat
  /-- The number of bindings that it captured. -/
  length : Nat
  deriving DecidableEq, Repr

/-- Closures that can be seen outside their script. -/
class Shows (κ : Type) where
  shown : κ → Shown

instance : Shows Shown := ⟨id⟩

instance : Shows Empty := ⟨nofun⟩

variable {κ μ : Type}

/-- The value as it is seen outside its script. -/
abbrev Value.shown [Shows κ] (v : Value κ) : Value Shown := v.mapClosures Shows.shown

/-- A function of the host program. It can hand on the closures that it finds in its arguments, but make
none: it does the same with arguments in which other closures are seen alike. -/
structure HostFunction where
  call : {κ : Type} → (κ → Shown) → List (Value κ) → Except Error (Value κ)
  call_map : ∀ {κ μ : Type} (f : κ → μ) (shown : μ → Shown) (args : List (Value κ)),
    call shown (args.map (Value.mapClosures f)) =
      Value.mapClosures f <$> call (fun c => shown (f c)) args

/-- The body that is handed to a tag. -/
inductive TagBody (κ : Type) where
  /-- The rendered body. -/
  | text (s : String)
  /-- Nodes, and what rendering them gives. -/
  | nodes (nodes : List (Node κ)) (rendered : Except Error String)

namespace TagBody

def isEmpty : TagBody κ → Bool
  | .text s => s.isEmpty
  | .nodes ns _ => ns.isEmpty

def render : TagBody κ → Except Error String
  | .text s => .ok s
  | .nodes _ rendered => rendered

/-- Replaces every closure in a body. -/
def mapClosures (f : κ → μ) : TagBody κ → TagBody μ
  | .text s => .text s
  | .nodes ns rendered => .nodes (Node.mapClosuresList f ns) rendered

/-- The body as it is seen outside the script. -/
abbrev shown [Shows κ] (body : TagBody κ) : TagBody Shown := body.mapClosures Shows.shown

end TagBody

/-- What the host program does: its functions and tags, by their numbers. -/
class Host where
  function : Nat → HostFunction
  /-- What a tag writes of a body and of positional and named attributes. -/
  expand : Nat → TagBody Shown → List (Value Shown) → List (String × Value Shown) → Except Error String

/-- A function that fails. -/
def HostFunction.failing : HostFunction where
  call _ _ := fail (.notFunction .function)
  call_map _ _ _ := rfl

/-- A host program that has neither functions nor tags. -/
abbrev Host.bare : Host where
  function _ := .failing
  expand _ _ _ _ := fail (.notCallable .callable)

/-- A function that gives back its argument. -/
def HostFunction.passing : HostFunction where
  call _ args :=
    match args with
    | [v] => .ok v
    | _ => fail (.notFunction .function)
  call_map f _ args := by
    match args with
    | [] | [_] | _ :: _ :: _ => rfl

/-- A host program with a function that gives back its argument and a tag that writes its body. -/
abbrev Host.passing : Host where
  function _ := .passing
  expand _ body _ _ := body.render

end MarkupTemplate

import Mathlib.Data.List.Infix

/-!
# Path templates

The templates of a router: text with parameters, each of which stands for a
nonempty run of symbols other than the separator.  A parameter takes the
longest such run, so templates have a separator or nothing after a parameter.
-/

/-- A part of a template. -/
inductive PathTemplate.Item (Symbol : Type*) : Type _
  | literal (symbol : Symbol)
  | parameter
  deriving DecidableEq

/-- A template of paths. -/
abbrev PathTemplate (Symbol : Type*) :=
  List (PathTemplate.Item Symbol)

namespace PathTemplate

/-- The template of a text: what stands between braces names a parameter. -/
def compileFrom (inside : Bool) : List Char → PathTemplate Char
  | [] => []
  | '{' :: rest => .parameter :: compileFrom true rest
  | '}' :: rest => compileFrom false rest
  | char :: rest =>
      if inside then compileFrom true rest
      else .literal char :: compileFrom false rest

variable {Symbol : Type*} [DecidableEq Symbol] {separator : Symbol}
  {template : PathTemplate Symbol} {path front : List Symbol}

/-- Whether a template describes a whole path. -/
def accepts (separator : Symbol) :
    (template : PathTemplate Symbol) → (path : List Symbol) → Bool
  | [], path => path.isEmpty
  | .literal _ :: _, [] => false
  | .literal symbol :: rest, first :: path =>
      symbol = first && accepts separator rest path
  | .parameter :: rest, path =>
      !(path.takeWhile (· ≠ separator)).isEmpty &&
        accepts separator rest (path.dropWhile (· ≠ separator))

/-- Whether some path of a template may start with a text, as far as the text
before the first parameter tells. -/
def mayStart : (template : PathTemplate Symbol) → (front : List Symbol) → Bool
  | _, [] => true
  | [], _ :: _ => false
  | .literal symbol :: rest, first :: front =>
      symbol = first && mayStart rest front
  | .parameter :: _, _ :: _ => true

theorem mayStart_of_accepts (accepted : accepts separator template path = true)
    (isFront : front <+: path) : mayStart template front = true := by
  induction template generalizing path front with
  | nil =>
      obtain rfl : path = [] := List.isEmpty_iff.mp accepted
      obtain rfl := List.prefix_nil.mp isFront
      rfl
  | cons item rest ih =>
      cases front with
      | nil => simp [mayStart]
      | cons first front =>
          cases item with
          | parameter => rfl
          | literal symbol =>
              cases path with
              | nil => cases accepted
              | cons head path =>
                  obtain ⟨rfl, tailFront⟩ := List.cons_prefix_cons.mp isFront
                  simp only [accepts, Bool.and_eq_true, decide_eq_true_eq]
                    at accepted
                  obtain ⟨rfl, accepted⟩ := accepted
                  simp [mayStart, ih accepted tailFront]

theorem prefix_of_accepts (accepted : accepts separator template path = true)
    (isFront : front.map Item.literal <+: template) : front <+: path := by
  induction front generalizing template path with
  | nil => exact List.nil_prefix
  | cons first front ih =>
      obtain ⟨rest, rfl⟩ := isFront
      cases path with
      | nil => cases accepted
      | cons head path =>
          simp only [List.map_cons, List.cons_append, accepts,
            Bool.and_eq_true, decide_eq_true_eq] at accepted
          obtain ⟨rfl, accepted⟩ := accepted
          have ahead := ih accepted (List.prefix_append _ _)
          exact List.cons_prefix_cons.mpr ⟨rfl, ahead⟩

end PathTemplate

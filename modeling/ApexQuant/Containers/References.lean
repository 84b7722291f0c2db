import ApexQuant.Foundation.Text

namespace ApexQuant
namespace Containers

open Foundation

/-!
# What a compose file refers to

Three small grammars with separators that mean different things in different places.  A
user is a uid, with or without a gid behind a colon.  A colon in the reference of an
image belongs to a port, to a tag or to a digest.  A value may refer to a variable
instead of spelling a text, and such a reference may carry a text of its own: a default,
a replacement or a message.

Nothing here is computed by the verifier; these are the meanings it is measured by.
-/

/-! ## The first colon -/

def beforeColon (text : Text) : Text :=
  text.takeWhile fun c => decide (c ≠ ':')

def behindColon (text : Text) : Text :=
  (text.dropWhile fun c => decide (c ≠ ':')).tail

theorem not_mem_beforeColon (text : Text) : ':' ∉ beforeColon text := by
  intro member
  have kept := List.mem_takeWhile_imp (p := fun c => decide (c ≠ ':')) member
  exact absurd kept (by decide)

theorem beforeColon_append_behindColon {text : Text} (colon : ':' ∈ text) :
    beforeColon text ++ ':' :: behindColon text = text := by
  have rest : text.dropWhile (fun c => decide (c ≠ ':')) = ':' :: behindColon text := by
    cases dropped : text.dropWhile (fun c => decide (c ≠ ':')) with
    | nil => exact absurd (List.dropWhile_eq_nil_iff.mp dropped ':' colon) (by simp)
    | cons separator more =>
        have stops := List.head?_dropWhile_not (fun c => decide (c ≠ ':')) text
        rw [dropped] at stops
        have known : separator = ':' := by simpa using stops
        rw [behindColon, dropped, known, List.tail_cons]
  rw [← rest, beforeColon, List.takeWhile_append_dropWhile]

theorem beforeColon_of_not_mem {text : Text} (solid : ':' ∉ text) : beforeColon text = text := by
  rw [beforeColon, List.takeWhile_eq_self_iff]
  exact Text.apart_of_not_mem solid

theorem beforeColon_append {before : Text} (solid : ':' ∉ before) (after : Text) :
    beforeColon (before ++ ':' :: after) = before :=
  Text.takeWhile_apart solid after

theorem behindColon_append {before : Text} (solid : ':' ∉ before) (after : Text) :
    behindColon (before ++ ':' :: after) = after := by
  rw [behindColon, Text.dropWhile_apart solid, List.tail_cons]

/-! ## Users -/

/-- A uid is given, and it is not that of root under either spelling. -/
structure NonRoot (user : Text) : Prop where
  named : beforeColon user ≠ []
  notRoot : beforeColon user ≠ "root".toList
  notZero : Exists fun c => c ∈ beforeColon user ∧ c ≠ '0'

/-- A user is its uid, alone or with a group. -/
theorem uid_cases (user : Text) : user = beforeColon user ∨ Exists fun gid => user = beforeColon user ++ ':' :: gid := by
  by_cases colon : ':' ∈ user
  · exact Or.inr ⟨behindColon user, (beforeColon_append_behindColon colon).symm⟩
  · exact Or.inl (beforeColon_of_not_mem colon).symm

/-! ## Images -/

/-- The name with its tag: what stands before the digest. -/
def repository (image : Text) : Text :=
  image.takeWhile fun c => decide (c ≠ '@')

/-- The algorithms of a digest, with the number of its digits. -/
def digestLengths : List (Text × Nat) :=
  [("sha256".toList, 64), ("sha384".toList, 96), ("sha512".toList, 128)]

def isHexDigit (c : Char) : Bool :=
  (decide ('0' ≤ c) && decide (c ≤ '9')) || (decide ('a' ≤ c) && decide (c ≤ 'f'))

/-- What stands behind the at sign is a digest. -/
def digestPinned (image : Text) : Bool :=
  let digest := (image.dropWhile fun c => decide (c ≠ '@')).tail
  let digits := behindColon digest
  digestLengths.contains (beforeColon digest, digits.length) && digits.all isHexDigit

/-- A colon before the last slash is that of a port. -/
def lastComponent (image : Text) : Text :=
  (repository image).rtakeWhile fun c => decide (c ≠ '/')

def tag (image : Text) : Option Text :=
  if ':' ∈ lastComponent image then some (behindColon (lastComponent image)) else none

def latest : Text :=
  "latest".toList

/-- The tag is one, and not the one that moves. -/
def ExplicitTag (image : Text) : Prop :=
  Exists fun version => tag image = some version ∧ Text.strip version ≠ [] ∧ version ≠ latest

def Pinned (image : Text) : Prop :=
  digestPinned image = true ∨ ExplicitTag image

/-- Where no slash and no at sign follow, the first colon is that of the tag. -/
theorem tag_of_plain {image : Text} (undigested : '@' ∉ image) (colon : ':' ∈ image)
    (last : '/' ∉ behindColon image) : tag image = some (behindColon image) := by
  have whole : repository image = image := by
    rw [repository, List.takeWhile_eq_self_iff]
    exact Text.apart_of_not_mem undigested
  have unslashed : '/' ∉ (':' :: behindColon image).reverse := by
    rw [List.mem_reverse, List.mem_cons]
    rintro (same | later)
    · exact absurd same (by decide)
    · exact last later
  -- the last component begins before the colon
  have component : Exists fun opening => ':' ∉ opening ∧
      lastComponent image = opening ++ ':' :: behindColon image := by
    refine ⟨(beforeColon image).rtakeWhile fun c => decide (c ≠ '/'), ?_, ?_⟩
    · intro member
      exact not_mem_beforeColon image ((List.rtakeWhile_suffix _ _).subset member)
    · have split := beforeColon_append_behindColon colon
      calc
        lastComponent image = image.rtakeWhile fun c => decide (c ≠ '/') := by rw [lastComponent, whole]
        _ = (beforeColon image ++ ':' :: behindColon image).rtakeWhile fun c => decide (c ≠ '/') := by rw [split]
        _ = _ := by
          rw [List.rtakeWhile, List.reverse_append, List.takeWhile_append_of_pos (Text.apart_of_not_mem unslashed),
            List.reverse_append, List.reverse_reverse, List.rtakeWhile]
  rcases component with ⟨opening, solid, component⟩
  have inside : ':' ∈ lastComponent image := by simp [component]
  rw [tag, if_pos inside, component, behindColon_append solid]

/-! ## Variables -/

/-- A character that the name of a variable may begin with. -/
def nameOpening (c : Char) : Bool :=
  (decide ('A' ≤ c) && decide (c ≤ 'Z')) || (decide ('a' ≤ c) && decide (c ≤ 'z')) || c == '_'

def nameCharacter (c : Char) : Bool :=
  nameOpening c || (decide ('0' ≤ c) && decide (c ≤ '9'))

/-- The longest name that a text begins with. -/
def namePart (body : Text) : Text :=
  body.takeWhile nameCharacter

def afterName (body : Text) : Text :=
  body.dropWhile nameCharacter

def isName (name : Text) : Bool :=
  name.head?.any nameOpening && name.all nameCharacter

/-- `-` and `:-` give a default, `+` and `:+` a replacement, `?` and `:?` a message. -/
def readOperator : Text -> Option (Char × Text)
  | ':' :: symbol :: word => if symbol ∈ ['-', '+', '?'] then some (symbol, word) else none
  | symbol :: word => if symbol ∈ ['-', '+', '?'] then some (symbol, word) else none
  | [] => none

def enclosed (body : Text) : Text :=
  '$' :: '\x7b' :: (body ++ ['\x7d'])

theorem enclosed_injective : Function.Injective enclosed := by
  intro body other same
  rw [enclosed, enclosed, List.cons.injEq, List.cons.injEq] at same
  exact List.append_cancel_right same.2.2

/-- One reference that spells no text the variable could take: its default or
replacement is empty or such a reference again.  A message never becomes the value. -/
inductive Reference : Text -> Prop where
  | bare {body : Text} (named : isName (namePart body) = true) (alone : afterName body = []) : Reference (enclosed body)
  | required {body message : Text} (named : isName (namePart body) = true)
      (read : readOperator (afterName body) = some ('?', message)) (closed : '\x7d' ∉ message) : Reference (enclosed body)
  | emptyWord {body : Text} {symbol : Char} (named : isName (namePart body) = true)
      (read : readOperator (afterName body) = some (symbol, [])) (word : symbol ≠ '?') : Reference (enclosed body)
  | nested {body word : Text} {symbol : Char} (named : isName (namePart body) = true)
      (read : readOperator (afterName body) = some (symbol, word)) (alternative : symbol ≠ '?')
      (inner : Reference word) : Reference (enclosed body)

/-- The texts between `${` and `}` that do not make a reference, by what is wrong with
them. -/
inductive Literal (body : Text) : Prop where
  | unnamed (nameless : isName (namePart body) = false) : Literal body
  | text (more : afterName body ≠ []) (unread : readOperator (afterName body) = none) : Literal body
  | message {message : Text} (read : readOperator (afterName body) = some ('?', message)) (open' : '\x7d' ∈ message) :
      Literal body
  | word {symbol : Char} {word : Text} (read : readOperator (afterName body) = some (symbol, word))
      (alternative : symbol ≠ '?') (nonempty : word ≠ []) (spelled : ¬Reference word) : Literal body

theorem Reference.not_literal {value body : Text} (reference : Reference value) (shape : value = enclosed body) :
    ¬Literal body := by
  intro literal
  cases reference with
  | bare named alone =>
      cases enclosed_injective shape
      cases literal with
      | unnamed nameless => exact Bool.false_ne_true (nameless.symm.trans named)
      | text more _ => exact more alone
      | message read _ => simp [alone, readOperator] at read
      | word read _ _ _ => simp [alone, readOperator] at read
  | required named read closed =>
      cases enclosed_injective shape
      cases literal with
      | unnamed nameless => exact Bool.false_ne_true (nameless.symm.trans named)
      | text _ unread => cases read.symm.trans unread
      | message read' inside =>
          cases read.symm.trans read'
          exact closed inside
      | word read' alternative _ _ =>
          cases read.symm.trans read'
          exact alternative rfl
  | emptyWord named read alternative =>
      cases enclosed_injective shape
      cases literal with
      | unnamed nameless => exact Bool.false_ne_true (nameless.symm.trans named)
      | text _ unread => cases read.symm.trans unread
      | message read' _ =>
          cases read.symm.trans read'
          exact alternative rfl
      | word read' _ nonempty _ =>
          cases read.symm.trans read'
          exact nonempty rfl
  | nested named read alternative inner =>
      cases enclosed_injective shape
      cases literal with
      | unnamed nameless => exact Bool.false_ne_true (nameless.symm.trans named)
      | text _ unread => cases read.symm.trans unread
      | message read' _ =>
          cases read.symm.trans read'
          exact alternative rfl
      | word read' _ _ spelled =>
          cases read.symm.trans read'
          exact spelled inner

/-- What is enclosed is a reference, or there is something wrong with it. -/
theorem reference_enclosed_iff {body : Text} : Reference (enclosed body) <-> ¬Literal body := by
  refine ⟨fun reference => reference.not_literal rfl, fun clean => ?_⟩
  have named : isName (namePart body) = true := by
    by_contra nameless
    exact clean (.unnamed (Bool.eq_false_of_not_eq_true nameless))
  by_cases alone : afterName body = []
  · exact .bare named alone
  · cases read : readOperator (afterName body) with
    | none => exact absurd (.text alone read) clean
    | some operator =>
        rcases operator with ⟨symbol, word⟩
        by_cases message : symbol = '?'
        · subst message
          exact .required named read fun inside => clean (.message read inside)
        · by_cases empty : word = []
          · subst empty
            exact .emptyWord named read message
          · by_cases inner : Reference word
            · exact .nested named read message inner
            · exact absurd (.word read message empty inner) clean

end Containers
end ApexQuant

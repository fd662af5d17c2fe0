/-
# ManagedLdap.DomainName.Joining -- joiners between letters

Two characters without a form of their own join letters or keep them apart.  They change
how a name looks only next to a virama or between letters of a cursive script, so a label
may hold them nowhere else.
-/
import ManagedLdap.Text.Mark
import ManagedLdap.DomainName.CombiningClass

namespace ManagedLdap.DomainName

set_option autoImplicit false

/-- The sides on which a cursive letter joins its neighbours. -/
inductive Joining where
  /-- With the letter before it. -/
  | backward
  /-- With the letter after it. -/
  | forward
  | dual
  deriving DecidableEq, Repr

/-- The cursive letters; the ranges run over marks and over characters that no domain name
can hold (Unicode 17). -/
def cursiveLetters : Text.ClassTable Joining := [
  (0x620, 0x620, .dual), (0x622, 0x625, .backward), (0x626, 0x626, .dual),
  (0x627, 0x627, .backward), (0x628, 0x628, .dual), (0x629, 0x629, .backward),
  (0x62A, 0x62E, .dual), (0x62F, 0x632, .backward), (0x633, 0x63F, .dual), (0x641, 0x647, .dual),
  (0x648, 0x648, .backward), (0x649, 0x64A, .dual), (0x66E, 0x66F, .dual),
  (0x671, 0x673, .backward), (0x679, 0x687, .dual), (0x688, 0x699, .backward),
  (0x69A, 0x6BF, .dual), (0x6C0, 0x6C0, .backward), (0x6C1, 0x6C2, .dual),
  (0x6C3, 0x6CB, .backward), (0x6CC, 0x6CC, .dual), (0x6CD, 0x6CD, .backward),
  (0x6CE, 0x6CE, .dual), (0x6CF, 0x6CF, .backward), (0x6D0, 0x6D1, .dual),
  (0x6D2, 0x6D3, .backward), (0x6D5, 0x6D5, .backward), (0x6EE, 0x6EF, .backward),
  (0x6FA, 0x6FC, .dual), (0x6FF, 0x6FF, .dual), (0x710, 0x710, .backward), (0x712, 0x714, .dual),
  (0x715, 0x719, .backward), (0x71A, 0x71D, .dual), (0x71E, 0x71E, .backward),
  (0x71F, 0x727, .dual), (0x728, 0x728, .backward), (0x729, 0x729, .dual),
  (0x72A, 0x72A, .backward), (0x72B, 0x72B, .dual), (0x72C, 0x72C, .backward),
  (0x72D, 0x72E, .dual), (0x72F, 0x74D, .backward), (0x74E, 0x758, .dual),
  (0x759, 0x75B, .backward), (0x75C, 0x76A, .dual), (0x76B, 0x76C, .backward),
  (0x76D, 0x770, .dual), (0x771, 0x771, .backward), (0x772, 0x772, .dual),
  (0x773, 0x774, .backward), (0x775, 0x777, .dual), (0x778, 0x779, .backward),
  (0x77A, 0x77F, .dual), (0x7CA, 0x7EA, .dual), (0x840, 0x840, .backward), (0x841, 0x845, .dual),
  (0x846, 0x847, .backward), (0x848, 0x848, .dual), (0x849, 0x849, .backward),
  (0x84A, 0x853, .dual), (0x854, 0x854, .backward), (0x855, 0x855, .dual),
  (0x856, 0x858, .backward), (0x860, 0x860, .dual), (0x862, 0x865, .dual),
  (0x867, 0x867, .backward), (0x868, 0x868, .dual), (0x869, 0x882, .backward),
  (0x886, 0x886, .dual), (0x889, 0x88D, .dual), (0x88E, 0x88E, .backward), (0x88F, 0x8A9, .dual),
  (0x8AA, 0x8AC, .backward), (0x8AE, 0x8AE, .backward), (0x8AF, 0x8B0, .dual),
  (0x8B1, 0x8B2, .backward), (0x8B3, 0x8B8, .dual), (0x8B9, 0x8B9, .backward),
  (0x8BA, 0x8C8, .dual), (0x1807, 0x1807, .dual), (0x1820, 0x1878, .dual), (0x1887, 0x18AA, .dual),
  (0xA840, 0xA871, .dual), (0xA872, 0xA872, .forward), (0x10AC0, 0x10AC4, .dual),
  (0x10AC5, 0x10AC5, .backward), (0x10AC7, 0x10AC7, .backward), (0x10AC9, 0x10ACA, .backward),
  (0x10ACD, 0x10ACD, .forward), (0x10ACE, 0x10AD2, .backward), (0x10AD3, 0x10AD6, .dual),
  (0x10AD7, 0x10AD7, .forward), (0x10AD8, 0x10ADC, .dual), (0x10ADD, 0x10ADD, .backward),
  (0x10ADE, 0x10AE0, .dual), (0x10AE1, 0x10AE1, .backward), (0x10AE4, 0x10AE4, .backward),
  (0x10AEB, 0x10AEE, .dual), (0x10AEF, 0x10AEF, .backward), (0x10B80, 0x10B80, .dual),
  (0x10B81, 0x10B81, .backward), (0x10B82, 0x10B82, .dual), (0x10B83, 0x10B85, .backward),
  (0x10B86, 0x10B88, .dual), (0x10B89, 0x10B89, .backward), (0x10B8A, 0x10B8B, .dual),
  (0x10B8C, 0x10B8C, .backward), (0x10B8D, 0x10B8D, .dual), (0x10B8E, 0x10B8F, .backward),
  (0x10B90, 0x10B90, .dual), (0x10B91, 0x10B91, .backward), (0x10BA9, 0x10BAC, .backward),
  (0x10BAD, 0x10BAE, .dual), (0x10D00, 0x10D00, .forward), (0x10D01, 0x10D21, .dual),
  (0x10D22, 0x10D22, .backward), (0x10D23, 0x10D23, .dual), (0x10EC2, 0x10EC2, .backward),
  (0x10EC3, 0x10EC4, .dual), (0x10EC6, 0x10EC7, .dual), (0x10F30, 0x10F32, .dual),
  (0x10F33, 0x10F33, .backward), (0x10F34, 0x10F44, .dual), (0x10F51, 0x10F53, .dual),
  (0x10F54, 0x10F54, .backward), (0x10F70, 0x10F73, .dual), (0x10F74, 0x10F75, .backward),
  (0x10F76, 0x10F81, .dual), (0x10FB0, 0x10FB0, .dual), (0x10FB2, 0x10FB3, .dual),
  (0x10FB4, 0x10FB6, .backward), (0x10FB8, 0x10FB8, .dual), (0x10FB9, 0x10FBA, .backward),
  (0x10FBB, 0x10FBC, .dual), (0x10FBD, 0x10FBD, .backward), (0x10FBE, 0x10FBF, .dual),
  (0x10FC1, 0x10FC1, .dual), (0x10FC2, 0x10FC3, .backward), (0x10FC4, 0x10FC4, .dual),
  (0x10FC9, 0x10FC9, .backward), (0x10FCA, 0x10FCA, .dual), (0x10FCB, 0x10FCB, .forward),
  (0x1E922, 0x1E943, .dual)]

/-- Whether letters join across a character as if it were not there. -/
def isTransparent (c : Char) : Bool := Text.isNonspacing c || c == Char.ofNat 0x1E94B

/-- How a letter joins its neighbours; none when it does not. -/
def joining? (c : Char) : Option Joining :=
  if isTransparent c then none else cursiveLetters.class? c

/-- Whether the nearest character that is not transparent is a letter with this joining. -/
def reaches (wanted : Joining) (cs : List Char) : Bool :=
  match cs.dropWhile isTransparent with
  | [] => false
  | c :: _ => joining? c == some wanted || joining? c == some .dual

/-- The joiner that keeps letters apart. -/
def nonJoiner : Char := '\u200C'

/-- The joiner that makes letters join. -/
def joiner : Char := '\u200D'

/-- Whether a joiner may stand between the characters before it, the last one first, and
those after it. -/
def mayJoin (c : Char) (before after : List Char) : Bool :=
  match before with
  | [] => false
  | previous :: _ =>
      isVirama previous ||
        (c == nonJoiner && reaches .forward before && reaches .backward after)

/-- Whether every joiner of a label may stand where it stands, after the characters
`before`, the last one first. -/
def joinersFit (before : List Char) : List Char → Bool
  | [] => true
  | c :: cs =>
      (!(c == nonJoiner || c == joiner) || mayJoin c before cs) && joinersFit (c :: before) cs

end ManagedLdap.DomainName

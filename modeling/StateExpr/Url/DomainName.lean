import StateExpr.Text.Search
import StateExpr.Unicode.Composition
import StateExpr.Unicode.Direction
import StateExpr.Url.NameMapping
import StateExpr.Url.Punycode
/-!
# Domain names

A domain name is written in ASCII.  Its characters give way to what they stand for, the text is
composed, and each label between points that is not ASCII is encoded.  A label may also be written
in its encoded form, if that is the form of what it stands for.

Main definition: `DomainName.ascii?`.
-/

namespace StateExpr

namespace DomainName

/-- Letters that join the letter before and the letter behind them. -/
def joiningBoth : Ranges :=
  .ofText
    "620 626 628 62a-62e 633-63f 641-647 649-64a 66e-66f 679-687 69a-6bf 6c1-6c2 6cc 6ce 6d0-6d1
6fa-6fc 6ff 712-714 71a-71d 71f-727 729 72b 72d-72e 74e-758 75c-76a 76d-770 772 775-777 77a-77f
7ca-7ea 841-845 848 84a-853 855 860 862-865 868 886 889-88d 88f 8a0-8a9 8af-8b0 8b3-8b8 8ba-8c8
1807 1820-1878 1887-18a8 18aa a840-a871 10ac0-10ac4 10ad3-10ad6 10ad8-10adc 10ade-10ae0
10aeb-10aee 10b80 10b82 10b86-10b88 10b8a-10b8b 10b8d 10b90 10bad-10bae 10d01-10d21 10d23
10ec3-10ec4 10ec6-10ec7 10f30-10f32 10f34-10f44 10f51-10f53 10f70-10f73 10f76-10f81 10fb0
10fb2-10fb3 10fb8 10fbb-10fbc 10fbe-10fbf 10fc1 10fc4 10fca 1e922-1e943"

/-- Letters that join only the letter behind them. -/
def joiningNext : Ranges := .ofText "a872 10acd 10ad7 10d00 10fcb"

/-- Letters that join only the letter before them. -/
def joiningLast : Ranges :=
  .ofText
    "622-625 627 629 62f-632 648 671-673 688-699 6c0 6c3-6cb 6cd 6cf 6d2-6d3 6d5 6ee-6ef 710
715-719 71e 728 72a 72c 72f 74d 759-75b 76b-76c 771 773-774 778-779 840 846-847 849 854 856-858
867 869-882 88e 8aa-8ac 8ae 8b1-8b2 8b9 10ac5 10ac7 10ac9-10aca 10ace-10ad2 10add 10ae1 10ae4
10aef 10b81 10b83-10b85 10b89 10b8c 10b8e-10b8f 10b91 10ba9-10bac 10d22 10ec2 10f33 10f54
10f74-10f75 10fb4-10fb6 10fb9-10fba 10fbd 10fc2-10fc3 10fc9"

/-- Marks that letters join through. -/
def passedOver : Ranges := Category.ofNames ["Mn", "Me"] ++ [(0x1171e, 0x1171e), (0x1e94b, 0x1e94b)]

/-- The class of marks that take the vowel off a letter. -/
def vowelKiller : Nat := 9

/-- The joiner between two parts of a label has an effect: it stands behind a letter without its
vowel, or it keeps two letters apart that would join. -/
def isJoinerInPlace (joiner : Char) (before behind : List Char) : Bool :=
  let last? := before.reverse.find? fun c => !passedOver.contains c
  let next? := behind.find? fun c => !passedOver.contains c
  before.getLast?.any (fun c => Composition.classOf c = vowelKiller) ||
    (joiner.toNat = 0x200c && last?.any (joiningBoth ++ joiningNext).contains &&
      next?.any (joiningBoth ++ joiningLast).contains)

/-- Every joiner of a label has an effect. -/
def areJoinersInPlace (label : List Char) : Bool :=
  (List.range label.length).all fun i =>
    match label.drop i with
    | c :: behind =>
      !NameMapping.joiners.contains c || isJoinerInPlace c (label.take i) behind
    | [] => true

/-- A label that is not ASCII: composed, of characters that stand for themselves, no mark first. -/
def isLabel (label : List Char) : Bool :=
  label.all (fun c => NameMapping.mapped? c == some [c]) && composed label == label &&
    !label.head?.any (Category.group ['M']).contains && areJoinersInPlace label

/-- The characters that a label stands for, and the label in ASCII. -/
def label? (label : List Char) : Option (List Char × List Char) :=
  match label with
  | 'x' :: 'n' :: '-' :: '-' :: rest => do
    let decoded ← Punycode.decode? rest
    guard (decoded.any (fun c => 128 ≤ c.toNat) && Punycode.encode decoded == rest
      && isLabel decoded)
    some (decoded, label)
  | _ =>
    if label.all fun c => c.toNat < 128 then some (label, label)
    else if isLabel label then some (label, "xn--".toList ++ Punycode.encode label)
    else none

/-- Where one label is written from right to left, every label has one direction. -/
def isDirected (labels : List (List Char)) : Bool :=
  !labels.any (·.any Direction.isLeftward) || labels.all Direction.isOneWay

/-- A domain name in ASCII. -/
def ascii? (cs : List Char) : Option (List Char) := do
  let chars := composed (← cs.mapM NameMapping.mapped?).flatten
  let labels ← (Search.split ['.'] chars).mapM label?
  guard (isDirected (labels.map (·.1)))
  some (['.'].intercalate (labels.map (·.2)))

end DomainName

end StateExpr

import SyntaxOutline.Text.Cluster.Class

/-!
# Clusters

A text falls into clusters, the pieces that a reader takes for one character each and that a screen
shows in one cell. Whether a character joins the cluster before it depends on its class and on a
little of what the cluster holds already.
-/

namespace SyntaxOutline

namespace Text

/-- How far a tie between two characters has come, when it needs a first one and a sign for it. -/
inductive Tie where
  /-- There is no first character. -/
  | absent
  /-- There is one. -/
  | begun
  /-- There is one, and the sign that ties it to the next. -/
  | tied
deriving DecidableEq, Repr

/-- What a cluster has shown up to its last character. -/
structure ClusterState where
  /-- The class of the last character. -/
  last : ClusterClass
  /-- A pictograph, with marks and then a joiner behind it. -/
  picture : Tie
  /-- A consonant, with marks and linkers behind it. -/
  conjunct : Tie
  /-- Whether the last character is the first letter of a flag. -/
  halfFlag : Bool
deriving DecidableEq, Repr

namespace ClusterState

/-- The state behind a first character. -/
def first (c : Char) : ClusterState :=
  let k := ClusterClass.ofChar c
  { last := k
    picture := if k = .pictograph then .begun else .absent
    conjunct := if k = .consonant then .begun else .absent
    halfFlag := k = .flagLetter }

/-- Whether a character belongs to the cluster. -/
def joins (s : ClusterState) (c : Char) : Bool :=
  let k := ClusterClass.ofChar c
  -- Line ends and controls stand alone, but for this one pair.
  if s.last = .carriageReturn && k = .lineFeed then true
  else if s.last.isAlone || k.isAlone then false
  else
    s.last.continuesSyllable k || k.isAttached || s.last = .prepended
      || (k = .consonant && s.conjunct = .tied)
      || (k = .pictograph && s.picture = .tied)
      || (k = .flagLetter && s.halfFlag)

/-- The state of the picture behind one more character. -/
def nextPicture (s : ClusterState) (k : ClusterClass) : Tie :=
  if k = .pictograph then .begun
  else if s.picture = .begun && k = .extend then .begun
  else if s.picture = .begun && k = .joiner then .tied
  else .absent

/-- The state of the conjunct behind one more character. The zero width non-joiner, although a
mark, ends it. -/
def nextConjunct (s : ClusterState) (c : Char) (k : ClusterClass) : Tie :=
  if k = .consonant then .begun
  else if s.conjunct = .absent then .absent
  else if isLinker c then .tied
  else if (k = .extend || k = .joiner) && c.toNat ≠ 0x200c then s.conjunct
  else .absent

/-- The state behind one more character of the cluster. -/
def next (s : ClusterState) (c : Char) : ClusterState :=
  let k := ClusterClass.ofChar c
  { last := k
    picture := s.nextPicture k
    conjunct := s.nextConjunct c k
    halfFlag := k = .flagLetter && !s.halfFlag }

end ClusterState

/-- What a text adds to the cluster before it, and the clusters behind that. -/
def splitCluster (s : ClusterState) : List Char → List Char × List (List Char)
  | [] => ([], [])
  | c :: cs =>
    if s.joins c then
      let (more, rest) := splitCluster (s.next c) cs
      (c :: more, rest)
    else
      let (more, rest) := splitCluster (.first c) cs
      ([], (c :: more) :: rest)

/-- The clusters of a text. -/
def clusters : List Char → List (List Char)
  | [] => []
  | c :: cs =>
    let (more, rest) := splitCluster (.first c) cs
    (c :: more) :: rest

end Text

end SyntaxOutline

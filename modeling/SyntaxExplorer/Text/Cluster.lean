import SyntaxExplorer.Text.ClusterClass

/-!
# SyntaxExplorer.Text.Cluster

**Splitting text into clusters**, the runs of characters that a reader sees as
one. Whether a character joins the cluster before it depends on its class, on
the class of the character before it and on a little of what is before that:
flags pair up regional letters, pictographs join across a joiner, and
consonants join across a linker. `Context` is that much.
-/

namespace SyntaxExplorer.Text

/-- Where a text stands with respect to a conjunct of consonants. -/
inductive Conjunct
  | none
  /-- Behind a consonant and perhaps marks. -/
  | started
  /-- The same, with a linker among the marks. -/
  | linked
  deriving Repr, DecidableEq

/-- What the rules want to know about the text before a character. -/
structure Context where
  /-- The class of the last character. -/
  last : ClusterClass
  /-- Is the number of regional letters at the end odd? -/
  oddRegional : Bool
  /-- Does the text end with a pictograph and perhaps marks, or a joiner behind them? -/
  pictograph : Bool
  conjunct : Conjunct

namespace Context

/-- Behind the first character of a text, of this class. -/
def first (c : ClusterClass) : Context :=
  ⟨c, c = .regional, c = .pictograph, if c = .consonant then .started else .none⟩

/-- Does a joiner follow a pictograph here? -/
def pictographJoined (ctx : Context) : Bool := ctx.pictograph && ctx.last = .joiner

/-- The context behind one more character. -/
def push (ctx : Context) (c : ClusterClass) : Context where
  last := c
  oddRegional := c = .regional && !ctx.oddRegional
  pictograph :=
    match c with
    | .pictograph => true
    | .extend | .linker | .joiner | .nonJoiner => ctx.pictograph && !ctx.pictographJoined
    | _ => false
  conjunct :=
    match c with
    | .consonant => .started
    | .linker => if ctx.conjunct = .none then .none else .linked
    | .extend | .joiner => ctx.conjunct
    | _ => .none

/-- Controls and line ends stand alone. -/
def standsAlone (c : ClusterClass) : Bool :=
  match c with
  | .carriageReturn | .lineFeed | .control => true
  | _ => false

/-- Does a character of class `c` join the cluster before it? -/
def joins (ctx : Context) (c : ClusterClass) : Bool :=
  match ctx.last, c with
  | .carriageReturn, .lineFeed => true
  | last, c =>
    if standsAlone last || standsAlone c then false
    else
      match last, c with
      | .leading, .leading | .leading, .vowel | .leading, .leadingVowel
      | .leading, .fullSyllable => true
      | .leadingVowel, .vowel | .leadingVowel, .trailing | .vowel, .vowel
      | .vowel, .trailing => true
      | .fullSyllable, .trailing | .trailing, .trailing => true
      | _, .extend | _, .linker | _, .joiner | _, .nonJoiner | _, .spacing => true
      | .prepend, _ => true
      | _, .consonant => ctx.conjunct = .linked
      | _, .pictograph => ctx.pictographJoined
      | .regional, .regional => ctx.oddRegional
      | _, _ => false

end Context

/-- Split the rest of a text, where `cluster` is the open cluster (the last
character first) and `done` are the clusters before it (the last one first). -/
def splitClusters (ctx : Context) (cluster : List Char) (done : List (List Char)) :
    List Char → List (List Char)
  | [] => (cluster.reverse :: done).reverse
  | c :: cs =>
    let next := clusterClass c
    if ctx.joins next then splitClusters (ctx.push next) (c :: cluster) done cs
    else splitClusters (ctx.push next) [c] (cluster.reverse :: done) cs

/-- The clusters of a text. -/
def clusters : List Char → List (List Char)
  | [] => []
  | c :: cs => splitClusters (.first (clusterClass c)) [c] [] cs

end SyntaxExplorer.Text

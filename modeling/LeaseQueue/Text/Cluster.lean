import LeaseQueue.Text.Cluster.Kind

/-!
Text cut into clusters, each of which a reader sees as one character: the extended grapheme clusters
of Unicode. The clusters of a text make up the text.
-/

namespace LeaseQueue.Text.Cluster

namespace Kind

def standsAlone : Kind → Bool
  | .carriageReturn => true
  | .lineFeed => true
  | .control => true
  | _ => false

def isSyllable : Kind → Kind → Bool
  | .leadConsonant, .leadConsonant => true
  | .leadConsonant, .vowel => true
  | .leadConsonant, .openSyllable => true
  | .leadConsonant, .closedSyllable => true
  | .openSyllable, .vowel => true
  | .openSyllable, .tailConsonant => true
  | .vowel, .vowel => true
  | .vowel, .tailConsonant => true
  | .closedSyllable, .tailConsonant => true
  | .tailConsonant, .tailConsonant => true
  | _, _ => false

end Kind

def awaitsPictograph : List Char → Bool
  | last :: earlier =>
    Kind.of last == .joiner &&
      match earlier.dropWhile (Kind.of · == .extending) with
      | c :: _ => Kind.of c == .pictograph
      | [] => false
  | [] => false

def isBetweenConsonants (c : Char) : Bool :=
  (Kind.of c == .extending || Kind.of c == .joiner) && !isNonJoiner c

def awaitsConsonant (cluster : List Char) : Bool :=
  let (signs, earlier) := cluster.span isBetweenConsonants
  signs.any isLinker &&
    match earlier with
    | c :: _ => Kind.of c == .consonant
    | [] => false

/-- Whether a cluster, given backwards, ends with a regional indicator that is not yet one of a pair. -/
def awaitsRegional (cluster : List Char) : Bool :=
  (cluster.takeWhile (Kind.of · == .regional)).length % 2 == 1

def goesOn (cluster : List Char) (next : Char) : Bool :=
  match cluster with
  | [] => false
  | last :: _ =>
    let before := Kind.of last
    let after := Kind.of next
    if before.standsAlone || after.standsAlone then
      before == .carriageReturn && after == .lineFeed
    else
      before == .prepended || before.isSyllable after ||
        match after with
        | .extending => true
        | .joiner => true
        | .spacing => true
        | .pictograph => awaitsPictograph cluster
        | .consonant => awaitsConsonant cluster
        | .regional => awaitsRegional cluster
        | _ => false

/-- The clusters of a text, of which the first has begun with the given characters, backwards. -/
def splitFrom (cluster : List Char) : List Char → List (List Char)
  | [] => [cluster.reverse]
  | c :: rest =>
    if goesOn cluster c then splitFrom (c :: cluster) rest
    else cluster.reverse :: splitFrom [c] rest

def split : List Char → List (List Char)
  | [] => []
  | c :: rest => splitFrom [c] rest

theorem flatten_splitFrom (cluster text : List Char) :
    (splitFrom cluster text).flatten = cluster.reverse ++ text := by
  induction text generalizing cluster with
  | nil => simp [splitFrom]
  | cons c rest ih =>
      simp only [splitFrom]
      split
      · simp [ih]
      · simp [ih]

/-- No character is lost or moved. -/
theorem flatten_split (text : List Char) : (split text).flatten = text := by
  cases text with
  | nil => rfl
  | cons c rest => exact flatten_splitFrom [c] rest

end LeaseQueue.Text.Cluster

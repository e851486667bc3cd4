/-
Glob patterns. A pattern is a relative path whose components are names,
wildcards, or the double star, which stands for any number of folders. In a
wildcard a star stands for any text, a question mark for one code point and
a bracketed class for one out of a set; classes may be negated with an
exclamation mark and may hold ranges. Case counts, and hidden names are
like any others. A slash at the end asks for folders only.
-/
import Marginalia.Files.Tree
import Marginalia.Text.Quoted

namespace Marginalia.Glob

-- =========================================================== wildcards

/-- A set of code points in a wildcard. -/
structure CharClass where
  negated : Bool
  points : Text
  ranges : List (CodePoint × CodePoint)
  deriving DecidableEq, Repr

/-- Is the code point in the class? -/
def CharClass.holds (k : CharClass) (c : CodePoint) : Bool :=
  let inside := k.points.contains c
    || k.ranges.any fun r => r.1.toNat ≤ c.toNat && c.toNat ≤ r.2.toNat
  inside != k.negated

/-- One element of a wildcard. -/
inductive Element where
  | star
  | any
  | oneOf (k : CharClass)
  | point (c : CodePoint)
  deriving DecidableEq, Repr

/-- The pieces of a class between the hyphens that make ranges. A hyphen
makes one unless it stands first or comes too soon after another one; one
at the end stands for itself. `kept` is the piece so far and `wait` how many
code points have to pass before a hyphen counts again. -/
def rangePieces (kept : Text) : Nat → Text → List Text
  | _, [] => [kept]
  | wait, c :: t =>
    if wait = 0 ∧ c = .scalar '-' then
      if t.isEmpty then [kept ++ [c]] else kept :: rangePieces [] 2 t
    else rangePieces (kept ++ [c]) (wait - 1) t

/-- Drops the ranges that run backwards: both their ends are left out, and
the pieces around them become one. -/
def dropBackward : List Text → List Text
  | [] => []
  | piece :: rest =>
    match dropBackward rest with
    | [] => [piece]
    | next :: more =>
      match piece.getLast?, next.head? with
      | some low, some high =>
        if high.toNat < low.toNat then
          (piece.dropLast ++ next.drop 1) :: more
        else piece :: next :: more
      | _, _ => piece :: next :: more

/-- The ranges between neighbouring pieces. -/
def rangesBetween : List Text → List (CodePoint × CodePoint)
  | piece :: next :: more =>
    match piece.getLast?, next.head? with
    | some low, some high => (low, high) :: rangesBetween (next :: more)
    | _, _ => rangesBetween (next :: more)
  | _ => []

/-- The class that the text between brackets means. -/
def CharClass.ofText (t : Text) : CharClass :=
  let wait := if t.head? = some (.scalar '!') then 2 else 1
  let pieces := dropBackward (rangePieces [] wait t)
  match pieces with
  | (.scalar '!' :: first) :: more =>
    let pieces := first :: more
    ⟨true, pieces.flatten, rangesBetween pieces⟩
  | pieces => ⟨false, pieces.flatten, rangesBetween pieces⟩

/-- The text of a class and what follows its closing bracket, for a text
behind an opening one. A bracket that comes first, or right after the mark
of negation, does not close the class. -/
def splitClass? (t : Text) : Option (Text × Text) :=
  let skipped : Text := match t with
    | .scalar '!' :: .scalar ']' :: _ => t.take 2
    | .scalar '!' :: _ => t.take 1
    | .scalar ']' :: _ => t.take 1
    | _ => []
  match Text.cut? "]" (t.drop skipped.length) with
  | some (inside, after) => some (skipped ++ inside, after)
  | none => none

/-- The elements of a wildcard; `fuel` is at least its length. A bracket
without a partner stands for itself. -/
def elements : Nat → Text → List Element
  | 0, _ => []
  | _ + 1, [] => []
  | fuel + 1, c :: t =>
    if c = .scalar '*' then .star :: elements fuel t
    else if c = .scalar '?' then .any :: elements fuel t
    else if c = .scalar '[' then
      match splitClass? t with
      | some (inside, after) =>
        .oneOf (.ofText inside) :: elements fuel after
      | none => .point c :: elements fuel t
    else .point c :: elements fuel t

/-- Does some ending of the text, the whole of it included, satisfy the
test? -/
def anyEnding (test : Text → Bool) : Text → Bool
  | [] => test []
  | c :: t => test (c :: t) || anyEnding test t

/-- Does a name match the elements of a wildcard? -/
def matchesName : List Element → Text → Bool
  | [], name => name.isEmpty
  | .star :: rest, name => anyEnding (matchesName rest) name
  | .any :: rest, name =>
    match name with
    | [] => false
    | _ :: name => matchesName rest name
  | .oneOf k :: rest, name =>
    match name with
    | [] => false
    | c :: name => k.holds c && matchesName rest name
  | .point p :: rest, name =>
    match name with
    | [] => false
    | c :: name => p == c && matchesName rest name

-- ============================================================ patterns

/-- One component of a pattern: a name, a wildcard, any number of folders,
or the place reached so far, which has to be a folder. -/
inductive Component where
  | name (name : Text)
  | wildcard (elements : List Element)
  | folders
  | here
  deriving DecidableEq, Repr

/-- Why a text is no pattern, or cannot be looked for: the system refuses
a path on the way. -/
inductive PatternError where
  | empty (pattern : Text)
  | gluedStars
  | absolute
  | noComponent
  | onlyFolders
  | path (fault : PathFault)
  deriving DecidableEq, Repr

/-- The error in words, where it has any. -/
def PatternError.message : PatternError → Text
  | .empty pattern => "Unacceptable pattern: " ++ pattern.quoted
  | .gluedStars =>
    "Invalid pattern: '**' can only be an entire path component"
  | .absolute => "Non-relative patterns are unsupported"
  | .noComponent => "Pattern without components"
  | .onlyFolders => "Pattern without components before its slash"
  | .path fault => fault.reason

/-- One component of a pattern. -/
def Component.ofText (t : Text) : Except PatternError Component :=
  if t = "**" then .ok .folders
  else if (Text.cut? "**" t).isSome then .error .gluedStars
  else if t.any fun c => (Text.ofString "*?[").contains c then
    .ok (.wildcard (elements t.length t))
  else .ok (.name t)

/-- The components of a pattern. -/
def ofText (t : Text) : Except PatternError (List Component) :=
  if t.isEmpty then .error (.empty t)
  else
    let path := Path.ofText t
    let slash := t.getLast? == some (.scalar '/')
    if path.isAbsolute then .error .absolute
    else if path.parts.isEmpty then
      .error (if slash then .onlyFolders else .noComponent)
    else
      match path.parts.mapM Component.ofText with
      | .error e => .error e
      | .ok components =>
        .ok (if slash then components ++ [.here] else components)

-- =========================================================== selection

/-- Asks the system about a path, which is refused when it is too long or
ends in a name that is. -/
def ask (p : Path) : Except PatternError Unit :=
  if Workspace.isLongerThan Workspace.maxPathSize p.toText
      || Workspace.isLongerThan Workspace.maxNameSize p.name then
    .error (.path .nameTooLong)
  else .ok ()

/-- The paths below a folder that a pattern selects. `p` is the folder as
it is written and `here` its place in the tree; the last component may
select anything, those before it folders only. A name is asked for, and so
is a folder whose entries are needed; one that ends the pattern is asked for
with its slash. -/
def select (t : Tree) :
    List Component → Path → Location → Except PatternError (List Path)
  | [], p, _ => .ok [p]
  | .here :: rest, p, here => do
    ask (p.child [])
    select t rest p here
  | .name name :: rest, p, here => do
    ask (p.child name)
    let up := name == [.scalar '.', .scalar '.']
    let place := if up then here.dropLast else here ++ [name]
    match t.at? place with
    | none => .ok []
    | some found =>
      if rest.isEmpty || found.isFolder then select t rest (p.child name) place
      else .ok []
  | .wildcard pattern :: rest, p, here => do
    ask p
    match t.at? here with
    | some (.folder entries) =>
      let groups ← entries.mapM fun (name, found) =>
        if (rest.isEmpty || found.isFolder) && matchesName pattern name then
          select t rest (p.child name) (here ++ [name])
        else .ok []
      return groups.flatten
    | _ => .ok []
  | .folders :: rest, p, here =>
    match t.at? here with
    | none => .ok []
    | some found => do
      let groups ← found.folders.mapM fun below => do
        ask ⟨p.root, p.parts ++ below⟩
        select t rest ⟨p.root, p.parts ++ below⟩ (here ++ below)
      return groups.flatten.eraseDups

/-- The paths below the folder `p` that a pattern selects, in order. -/
def run (w : Workspace) (p : Path) (pattern : Text) :
    Except PatternError (List Path) :=
  match ofText pattern with
  | .error e => .error e
  | .ok components =>
    match w.locate p with
    | .error _ => .ok []
    | .ok here =>
      match w.tree.at? here with
      | some (.folder _) =>
        (select w.tree components p here).map (·.mergeSort Path.le)
      | _ => .ok []

end Marginalia.Glob

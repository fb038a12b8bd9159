import GridFleet.PythonNumbers
/-! Release names are compared as dotted integers; a name with a segment that is no integer sorts as
release 0. -/
namespace GridFleet.ReleaseOrdering

def splitOnDot:List Char→List (List Char)
 | []=>[[]]
 | '.' :: rest=>[]::splitOnDot rest
 | c::rest=>
  match splitOnDot rest with
  | []=>[[c]]
  | segment::segments=>(c::segment)::segments

def fallback:List ℤ:=[0]
def parseReleaseKey (release:String):List ℤ:=
 ((splitOnDot release.toList).mapM (PythonNumbers.parseInt 10)).getD fallback

variable {α:Type*}(release:α→String)

def latestRelease:List α→Option α
 | []=>none
 | first::rest=>
  some <| rest.foldl
   (fun best r=>if parseReleaseKey (release best)<parseReleaseKey (release r) then r else best)
   first

def selectedRelease (releases:List α)(currentRelease:Option String):Option α:=
 match currentRelease with
 | none | some "" =>latestRelease release releases
 | some current=>
  match releases.find? fun r=>release r=current with
  | some r=>some r
  | none=>latestRelease release releases
end GridFleet.ReleaseOrdering

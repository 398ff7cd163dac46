import Dazyflow.GoStrings
import Dazyflow.JobRecords

/-!
# What the two workspace backends share

Names, messages and errors of `workspace/store.go` and of the two backends.
-/
namespace Dazyflow.WorkspaceStore

def publishedEnv:String:= "published"

inductive LoadError
 | notPublished | graphNotFound | unresolved
 deriving DecidableEq

-- ninety seconds
def autosaveCoalesceWindow:Int:=90000000000

def autosaveMessage(graphID author:String):String:=
 "autosave: update "++graphID++" [user:"++author++"]"

def explicitMessage(graphID author:String):String:=
 "graph: update "++graphID++" [user:"++author++"]"

def deleteMessage(graphID author:String):String:=
 "graph: delete "++graphID++" [user:"++author++"]"

def maxGraphIDLen:Nat:=128

def isGraphIDStart(c:Char):Bool:=c.isAlphanum

def isGraphIDByte(c:Char):Bool:=isGraphIDStart c||c== '-'||c== '_'||c== '.'

def validGraphID(id:String):Bool:=
 let cs:=id.toList
 cs != []&&cs.length ≤ maxGraphIDLen&&cs.head?.any isGraphIDStart&&cs.all isGraphIDByte &&
  !cs.tails.any ("..".toList).isPrefixOf&&!(".".toList).isSuffixOf cs&&!(".lock".toList).isSuffixOf cs

lemma not_mem_of_valid{f c}(h:validGraphID f)(hc:isGraphIDByte c=false):c∉f.toList:=by
 intro hm
 simp only[validGraphID,Bool.and_eq_true] at h
 exact absurd (List.all_eq_true.1 h.1.1.1.2 c hm) (by simp[hc])

end Dazyflow.WorkspaceStore

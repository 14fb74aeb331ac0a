import AppServer.Url.Domain.Composition
import AppServer.Url.Domain.Direction

/-!
# Joining of letters

Which marks there are besides those that take no room, which letters join their
neighbours, and the rule by which a label may hold the two characters that ask
for joining and for its absence. The tables cover the characters that domain
names keep.
-/

namespace AppServer.Url.Domain

/-! ### Tables -/

def spacingMarks : Ranges := .ofLines
  ["903 93B 93E-940 949-94C 94E-94F 982-983 9BE-9C0 9C7-9CC 9D7 A03 A3E-A40 A83 ABE-AC0 AC9-ACC B02-B03",
    "B3E B40 B47-B4C B57 BBE-BBF BC1-BCC BD7 C01-C03 C41-C44 C82-C83 CBE-CCB CD5-CD6 CF3 D02-D03 D3E-D40",
    "D46-D4C D57 D82-D83 DCF-DD1 DD8-DDF DF2-DF3 F3E-F3F F7F 102B-102C 1031 1038 103B-103C 1056-1057",
    "1062-1064 1067-106D 1083-1084 1087-108C 108F 109A-109C 1715 1734 17B6 17BE-17C5 17C7-17C8 1923-1926",
    "1929-1931 1933-1938 1A19-1A1A 1A55 1A57 1A61 1A63-1A64 1A6D-1A72 1B04 1B35 1B3A-1B44 1B82 1BA1",
    "1BA6-1BA7 1BAA 1BE7 1BEA-1BEC 1BEE 1BF2-1BF3 1C24-1C2B 1C34-1C35 1CE1 1CF7 302E-302F A823-A824 A827",
    "A880-A881 A8B4-A8C3 A952-A953 A983 A9B4-A9B5 A9BA-A9BB A9BE-A9C0 AA2F-AA30 AA33-AA34 AA4D AA7B AA7D",
    "AAEB AAEE-AAEF AAF5 ABE3-ABE4 ABE6-ABE7 ABE9-ABEA ABEC 11000 11002 11082 110B0-110B2 110B7-110B8",
    "1112C 11145-11146 11182 111B3-111B5 111BF-111C0 111CE 1122C-1122E 11232-11233 11235 112E0-112E2",
    "11302-11303 1133E-1133F 11341-1134D 11357 11362-11363 113B8-113BA 113C2-113CD 113CF 11435-11437",
    "11440-11441 11445 114B0-114B2 114B9 114BB-114BE 114C1 115AF-115B1 115B8-115BB 115BE 11630-11632",
    "1163B-1163C 1163E 116AC 116AE-116AF 116B6 1171E 11720-11721 11726 1182C-1182E 11838 11930-11938",
    "1193D 11940 11942 119D1-119D3 119DC-119DF 119E4 11A07-11A08 11A39 11A57-11A58 11A97 11B61 11B65",
    "11B67 11C2F 11C3E-11C3F 11CA9 11CB1 11CB4 11D8A-11D8E 11D93-11D94 11D96 11EF5-11EF6 11F03",
    "11F34-11F35 11F3E-11F3F 11F41 1612A-1612C 16F51-16F87 16FF0-16FF1 1D165-1D166 1D16D-1D172"]

def joinsNext : Ranges := .ofLines
  ["A872 10ACD 10AD7 10D00 10FCB"]

def joinsBoth : Ranges := .ofLines
  ["620 626 628 62A-62E 633-63F 641-647 649-64A 66E-66F 679-687 69A-6BF 6C1-6C2 6CC 6CE 6D0-6D1 6FA-6FC",
    "6FF 712-714 71A-71D 71F-727 729 72B 72D-72E 74E-758 75C-76A 76D-770 772 775-777 77A-77F 7CA-7EA",
    "841-845 848 84A-853 855 860 862-865 868 886 889-88D 88F 8A0-8A9 8AF-8B0 8B3-8B8 8BA-8C8 1807",
    "1820-1878 1887-18A8 18AA A840-A871 10AC0-10AC4 10AD3-10AD6 10AD8-10ADC 10ADE-10AE0 10AEB-10AEE 10B80",
    "10B82 10B86-10B88 10B8A-10B8B 10B8D 10B90 10BAD-10BAE 10D01-10D21 10D23 10EC3-10EC4 10EC6-10EC7",
    "10F30-10F32 10F34-10F44 10F51-10F53 10F70-10F73 10F76-10F81 10FB0 10FB2-10FB3 10FB8 10FBB-10FBC",
    "10FBE-10FBF 10FC1 10FC4 10FCA 1E922-1E943"]

def joinsPrevious : Ranges := .ofLines
  ["622-625 627 629 62F-632 648 671-673 688-699 6C0 6C3-6CB 6CD 6CF 6D2-6D3 6D5 6EE-6EF 710 715-719 71E",
    "728 72A 72C 72F 74D 759-75B 76B-76C 771 773-774 778-779 840 846-847 849 854 856-858 867 869-882 88E",
    "8AA-8AC 8AE 8B1-8B2 8B9 10AC5 10AC7 10AC9-10ACA 10ACE-10AD2 10ADD 10AE1 10AE4 10AEF 10B81",
    "10B83-10B85 10B89 10B8C 10B8E-10B8F 10B91 10BA9-10BAC 10D22 10EC2 10F33 10F54 10F74-10F75",
    "10FB4-10FB6 10FB9-10FBA 10FBD 10FC2-10FC3 10FC9"]

/-- The characters, besides the marks that take no room, through which letters join. -/
def alsoTransparent : Ranges := .ofLines
  ["CBF CC6 1B3A 1B3C 1B42 11A07-11A08 11C3F 1E94B"]

/-! ### Marks -/

def isMark (c : Char) : Bool := nonspacingMarks.has c || spacingMarks.has c

/-! ### Joiners -/

def nonJoiner : Char := '\u200C'

def joiner : Char := '\u200D'

def isTransparent (c : Char) : Bool := nonspacingMarks.has c || alsoTransparent.has c

/-- Whether joining is kept apart here: the text before it, last character first, ends in a letter that
joins the next one, and the text behind it starts with one that joins the previous one. -/
def separatesJoining (before after : List Char) : Bool :=
  ((before.dropWhile isTransparent).head?.any fun c => joinsNext.has c || joinsBoth.has c) &&
    ((after.dropWhile isTransparent).head?.any fun c => joinsPrevious.has c || joinsBoth.has c)

/-- Whether the joiners in a text stand where they mean something: behind a mark that joins consonants, or
between letters that would join. The text before it is given last character first. -/
def joinersAllowed (before : List Char) : List Char → Bool
  | [] => true
  | c :: rest =>
    let allowed :=
      if c = nonJoiner ∨ c = joiner then
        (before.head?.any fun previous => markClass previous = joiningClass) ||
          (c = nonJoiner && separatesJoining before rest)
      else true
    allowed && joinersAllowed (c :: before) rest

end AppServer.Url.Domain

import Sketchflow.Text.Ranges

/-!
# Identifier characters

A name starts with a letter or an underscore and goes on with letters, marks, digits and
connectors.
-/

namespace Sketchflow.Text

/-- Ranges of characters outside ASCII that may start a name. -/
def nameStartRanges : Array (Nat × Nat) := rangesOf [
    "U.(2(,(->)F)].,36,/()(T.,))+*)(.()*)();)S()T70U))M*(.PRFB,+R,R)K))S8)(7)/)2**(8()EES.3(@H1),",
    "(-=,(1(+(?@/2-?)-9R(R9R4+(:(/177,/*)*=).)(+++(8(5))*6)2(0-,)*=).))))))G+)(;*80)*)=).))),+(:(",
    "7)?(3/*)*=).))),+(F))*7(9()-+*)++))())+)+*+3>(R3/)*)>)7+(B**(*)F(,/)*)>)1),+(G)))7)90)*)P*(8",
    "(-*0*@--9+?)0)(*.R9R.)(5.R9))(),)?)()1)(2(*,)(=+H(R>/)KC,SIR)<(8-,++(+)/*,44(9M)(-(*R))Y,)+*",
    ".)()+*P)+*H)+*.)()+*6)R7)+*RAM78S+*-+a,*8)A-RI+2/95:6964)*7R2K(,(RBS./P)(-RD2FR0E*,3R*,AR5>1",
    "R3S((S3R-9/R5E5)2R*BKR(*2K*0/R)**R(+)-))+(-UCR?WG*-*M*-*/)()()()F*R3).)(+*).++*-,4-*).SJ(5(8",
    "4S;(,(*1)(*-.()()()7*+-,,(9PRj6V?.++)4M)(-(*R6/(8>1.).).).).).).)._9*A0/,*,,S+.*)S/)+-R))S39",
    "GR/7^<TwGR?_X8RBR,*W>+72)<R-8F*RNO0*S<*R>-))(),@7)*)+)>ER26R0R=-+())3C2>AD/R-D(8,)12,)P?*)/<",
    ">+(+R0)(+)*,*()(@**2/*4-*-*-1.).)R))5.SHEWl;4>,R/VR.YM*S?N.4,-()1)4),)()))))SAIT7.V4:R>*R4P1",
    "SM()(+()()()()T*LA.A3R6*F+-*-*-**K3)A):)))6*5JSPRDR3W=D+R/R.G5E-M2E*K,/),R)TJ:K,K,O0R242)6).",
    ")))2)6).))RBX?1=2/@-)R()0RD-*()R*))+(*>2>1FR@:))2=2ARER6.)R?(7+)*)DR)D+DK/)CCR42=2:59SDRGR6R",
    "15R15KY<R(.)RMD2(0=R)9R-<C>4R3R8)*(5R+H@BKE(*(0J+(4R.6+=()(K9)@S*.)()+)6)1/R-N/*)*=).))),+(:",
    "(4,TKR3:+<*FR.<))(U<R-R(+LR.<(R:R)5(RFBM.U=R*SJR>G/*(*/)))?7()(S4/*N8()(D(2O/(=(3R,;(:RGW90)",
    "L9(R0ESF.)))M=(A-)))G6(XP:UA(RNh;S<SD9UGRi4S67l,SbG`0VV?_K/F9RM9E:R.8+G<-:bHR>T-RI-(RA4R?))(",
    "DTlB0p/R)0V^N+).)))X+R,*9+0ZBRa4S@-4+0/1Ti,S*)RE))*(*)*+)3)().)R?)+*/).)C)+),)(+.)Y3*@)@)F)@",
    ")F)@)F)@)F)@)/RTPF]FR+2.8(XJE:R*pN.)+)))6)UHR:RB/(o7+)B)))(*()1)+)()(.(,()()()*)))(*()()()()",
    "()))(*+).)+)+)()1)8-*),)8SkIkbNHSe3/V8*Tc=6Ud2RtD_0vFSx:"]

/-- Ranges of characters outside ASCII that may only continue a name. -/
def nameContinueRanges : Thunk (Array (Nat × Nat)) := Thunk.mk fun _ =>
  Table.nameContinue.ranges

/-- Whether a name may start with this character. -/
def isNameStart (c : Char) : Bool :=
  if c.toNat < 0x80 then c.isAlpha || c == '_' else inRanges nameStartRanges c.toNat

/-- Whether a name may go on with this character. -/
def isNameContinue (c : Char) : Bool :=
  if c.toNat < 0x80 then c.isAlphanum || c == '_'
  else inRanges nameStartRanges c.toNat || inRanges nameContinueRanges.get c.toNat

end Sketchflow.Text

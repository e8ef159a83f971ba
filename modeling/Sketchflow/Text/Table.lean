import Sketchflow.Text.Unpacking

/-!
# Tables of numbers

The numbers of the tables about characters are packed together.
-/

namespace Sketchflow.Text

/-- The tables, in their order. -/
inductive Table where
  | decompositions
  | markClasses
  | compositions
  | lowerRuns
  | upperRuns
  | upperExpansions
  | caseIgnorable
  | cased
  | unprintable
  | nameContinue
  | word

namespace Table

def rows : List String := [
    "aJW4b/GJ&@St8b^k0Q@Y`^&YbH+GZj]O.JRhk!G*Cs+bbx(@6L;f,6nt6fA3j'(_WmQ;?G/vX8P(`Wz6/8tF%k!CsEK?]a^DV R0j/[cA(jt,TPmqwC<#:] kX+DPAj]w[M`T$%jA(=9mN`aAY(%EtE3d[HGa4RL*[XiPXv$-(H@OH]|jsL]Bu1y)h4u7*jnt^X?)B(je*n>oYY^1/DVI3j'Afu|2'$Zkx?2[Ju)GF>wNpm`Z[A@bT4r61dNpfE=C;QT#K(sB8@Z8eY%7MX~t(-lpkbp!zv!v&VoZ%;QnIBij^ w] 3*GKdTwy.-77Ri?tA^29[VP9%Q^h.o8V'4w9Yjf10f1rYic?FwOzgq^S/Oc|wT)i1<g ,Ghl#zg>TxU#CY<fm%8aDMwO;u~!A%j0uUxE/; ?_WDUp9MrT4#W?.b<(s(Z @c*S^[VNkw$#Vgftl$?Q T`*&M6%K1VsF:al]Kx>817T,+`7[J2eOw+u44h;nWQ&eMDo^- 3(KYsp.4$t+bF=mDe'**cd2]t6E<iWuYPO",
    "O3`4-Y)m[]AJzP=FWA=4BhGakebSO|(B>(/Su0Ji[Y] Hjk%l;@[(J5Pz)mQ[u1;rItzk#7>;MYNC#IdFTH&h2`wHSxxNy8aqYiYMXC-1db^YW[k,kB Pq9(#1tDp06g9W|@s@U9_5S]]WfM.N7-|V7LII^PkF2y|uSRhIkUyp'>B[l!;tP0hUC'Oqf$7cx;K_RgPBfS]!Sww;GQ,=!jf9OP|)x):=,k*?n0l4-)=A[V?>7Tl~AZQqm)')ix1e<PNya69n*dU~$Yf>@A:-;n6vt6mGC|t59|2 z8Zmi.1FEVq/-6Q9pVFJsc?cn fDA?SDiD AiBIaH>'EPWbOEC7$<h6zP'qsMycD_5FAz*_o392At5@RM;u RTbE`[1$&Uxy+O 7,wzgIhG[rz%A^qsEU$S#/A_I|1!/G !j2y-mS!1_ZAg<;EDEI.GDIZ/.%g?pi=Rb7.T;w%17[ 9[Qxgwm<7>[md|Y#_oJ.7#LY0OZcP/fXzLOv`4El^0p_NCxAk?ow,k274gcAbu'ElZd`CQC+[nt+",
    "zFcp:E&$tQ&N18bUBbQ8A)nL]kiizd.`<_o<v1;cW]b1|N%JfHTi-%!OQ;I6/e=YG0jTGP8P!=,z^YjV.^Xgw[IP2KM(+^kXOd%gVX6V:OxIoG<+ja?|M1:AU;eO598ldF$p=)4w!)ioR/8m5ED>r[7&6nr3U)]>E/`yfD._2NL0hD]72P1KpW`4A~zOggNfT if*L/Cj>'EgrPN*6aUa`B9;Uo#;%P,w|?801:glUrLj3K;;icoPH])R#P0t:-mi !]eXWm%^XoY6J(qIf_T?ZDZ|F<SfCCA3VGAodL&Ln]ifN;1SYy8a-Yj Ln;oJ;c|$v$_kbP*1p8JYj&ojWSB$Y]smmF%eZ-~oc)PGr+1vu|m)J)GYMl:6_n;8mJBfK G:Yt,^-pROB-fV|Xp|M6?(LF$.TF*G9!`  >SA49H'rBdREUP[O<h=`;wD]5CF~%Hm'LCsFV<d~zxPRg:DNML^oLsni`2<j:tx36zl->HLmRW=`==F+Hx 32AmK*d!j*/_I.BK9I^+.0[Oe6(r2]T9qI@RN",
    "Y_IFw`=VFI1ANdvm*.Q1Fm84?ObrrI9Yd[hN2S<Np?0tW=(4^=T0k%Q'U;gJN@P#9Rc'UcNwwI#234<TY:W+m:|0p`O)AZ/d6)uja8#7B)'p@objy~6iW)w~V+ Jf-LWz Hp?SMoqgPUf<zQuA2U$;*b:2o 5fn/>oGI*$MC,rkWo8Xw;e!<m5[|AxtBa4F;.-%o|(Z)O>b[!_7|'eaAmEe;*Tw.WU#U[12;]yxmd-kfYy0Sa>dt<EA7BTo6ufxQA3DU3xTR%VPH.cwFyj=6Ir(8OAvLf [WOZ%M=R&eo=[?7_C'$#:&Gy1?1CA:+/GxM6oo_uw,T*;QQ Wfbqs%?K19BUp=JrR4?=Rc6_I3k48ZYh;oT5a9NcOH#wg!xaq)nZ|r`5q` l? w$B.HZ#hqL'f4, ['d+@YM['$['QZ]gcnR$ZHl-5TOF'>ztAX F1?LN('>ttkP1%7nx&1FUh%`+(6u?Hp(,R#1h*hb6wl&f%MH2~c7K9iCyDE,o?O,=F;~g4+S(/>v2(MZ4R2M|*:DLgPwOK",
    "]$z?lM>3*w&R:Sp5#O7G9qI8F=8*s/+9,>L!Fg3o>#>&Ru[zqh$.ZlQ~NI1hLN=P+%JWh2qOtN72PAv%L]-#,D,<rECIsMV`K^e>'hI&_59tjqYfU)th>*C$ikC#:+&hw3HgIa(~TN|qN`?Yc$G_(O`tx^,=L<llh$Y(OW:>O>bn[0mwFbT19tO`BHj[]=s<%8g?0Au^7UB[pc8JIc(aV+Fof2A8<[c*8QnYw[</um(uzQcgRULi,WA::Y&2FbodC#qXQqt/ER5|,k%Y Z[_d-;Vx$2%cRWX>T#Dk],`3~_NL1e|R;so.)|`SOI|DU/choyYQ0Jv)s_e.@_[Fx)aR=m^oat@Zg@1z5+FUeZ$lxHL ;Xm<&S1!~Tf$2YNz~Xh_L|9|fGFIvxaY(t_HGJdM>oj*2bdJeI=z%eW]-@O RaSz);'drw7j+D.>*O_,r'Fd%fywPaInsm2+cM4n'ic=5:)Tip`=wbm4Z7ncZ;voy`=j2Nog$H+HIfp:lj|](wPV+?Z6OQuI]^|ZV>C# *J6m&ifM<o",
    "WQ,rV:?F[kWkwruY_q,q_ ]TCQt7!l%q522u.u]l4PS8S:7;;|SPJDlr>v9BC&8h!x&$ewHUSSz=d95ZO#5j&ukb4lv,+i8s71+gejr>CqCrf,,X$?/,xYRnM;7*)BTNz(CJRnj0D|d @7zJ3(;Fe!|kkB&W6>,qnqkRw=M z2YhO B:9cn@qyBGv)(-kI`nGUpAe;ycO^Pmz6rb!l^2pa-xNrzgH9d(n/VAib0PZ7%8c&>pzcefgvp@/vu.zdEuu<@Y`kDuuB) /_aylr#.P;S&mf$9 t>_t152g,T^5m2fWo->YL&_N b#ZfQO@U.|6;'zV.u2;Lx  FK(>egE7XXT/7_oxmPUA*=JT;DZ-5tcC y?*f*iO:EZV37c)Rt!,'|#`q[wmR^M'w5Y)#P*|jnaF6!pn|`F_S8'2'o:yuCt[qp#$k^yQATPpuo~KLc|]$`dgwhXu''7kN<ZgyJh O,=)_D^B(Yr4IKok1]8n`O|$KZ[?KA7w<Di0ZhNXYiKc<C$05xf1U?SXL;eJh_UP1+)-DKK",
    "[D)-'=P.x9B+Uz^&,B1)Hy%<;QcT6/pR*=kMBI-6L0Z8P?vEWMV9!DulgEYg&yg7uh8:,W]7nvoGX0DXi?XW3BUnTxt-&)fBpQCg.iM~!.c1cvbkN2CIRE09_1 ricDwlDDY1N23aaMTG*Pmz|1Q#aE`_kuNK]ny#dgJdh(X-kqj oEPlH*jJX5Ui~VBEu4&s#lM:MOt9c:rqSXO?'.xf=A;,Tl~)`1B*Iv[b,]=aaeQ`c:AI$UnVqs%v5NMBq>LBoGi8tB0N#g&VsYGrh.Jrm&rz7hl7W[p-0n:,+Yite)u8qxZ>s$$MnAw^KA`I@Hgn%w$C5yf623PlH3/-9FTRe`1kk&3zU;QL8!>5~FBrQAF^pT>'1`sCH,X#xcxwF.1>A&yKh6o,dN<*p*iSLMGV>2dNK!J#p#X9!*5XjJ^8i.-<5AMp~tAqe_'u]D!bjCZl&fOM(NU;g|AFP!nchcC.$tOo7`E`nu=e-!37xdKZfp2KWMEz/yy`Yp4=h(f6i_OxfGJ-U6BWu_ZkKH$5mYfkd:~M$/y",
    "Tx.Ry$Mz5sv)7svd&I_1`(pKms4=-yK9[&oD`bs=/Qa;'%vs:)B%&fm~lD5-'qTDg@oqy-PnrBZ~xUGN1H._F0VTRMRb'&KD1(p73Q9eeKRRV3O&:xaR71+=5Q1ed9fi(;aycHw2.ulM.%:1P83Mf 0t*/,+c;m5@3,^ME$9fFCq0qPSp>8G`lq3VIj-sn)wf.D5'OZ2C'&2ZIs*0*ef@mfE?3U,C1b)DOKSgs+ZThv(Z|tVofNnCI>S0JIjM7l;Un Y(0qP.5L:5^?RbaX9<X5raeTA&k9Y;Bjq$qdT[SPk4]9'([Gdm`o?:u%rBz7wh^]qXFaz|n6ZK@U-p(*oW!`OiJUa5pV(IGr!9=f@EG'x<ZI_A`nuZ^W@c.tH?mCElpZ1a3m LwR9_e^=5%Q:;D3%5Q_VaJ(Mvz=Z8hddO(a!,Q*_p77%k-x#v`EZ5#V*e]:jfvK.rkw;6d?4)uwztAQZ q,Kz#Xar(,jP#95lg`UuT2V0b&z^.a^ft/zx1LTJ+wZ.I/!tLi<H!F-TU4DH;UH@Qyn",
    "_aIk#$JhEClSpQ>x&w]GEl8<HbA.@b'!$aJjYKSgeMP+Onb)fk,MYGgRPjJ O-*B=-:u>g9lQ$HcAj4+(7D:/>$v9PHNOizgN[YNu.Gm5[urX.u7=Q*C6Za5BRp)S?<jLW922a^hcg?By$3Cy?6,ds;U9FgjvZniW0r9vul?>6n&9WC_*sA5qPOXvD#tHe&@g6)Y>3p?s3uF)74BePvm@O-_jLa2>DsuuE4+e=FufUPRRgp]b*K)Kx=wW&7L=jO[AlSs1K*-&VaYy&KFdP9kQ3z)yx!FjNPp/#|YrUB2j'0s_uv|H=:F_Uq6&'-zqbySga0UB9Ev)oe!e,eLt=5@ZR]g1-P.:g.2o&<NoVLOESb2wH8<@WgfDCsJe94H5gTUFe5AWb;ix=NEX KJW--8KlvQyzvS;'72YV|#j(nE17Ft`(h/Nq>bo::8R4ofn_(kMw#?JNRvOJVJ(>.Y*PD@* `K6]:?]I/s^[8ET[zQrVq:3< iD%EE*!_,)H5kD UhU `IB?)hlI3xN$4MB;f):b7(/^jF",
    "7(5*cBUXIWyyM]Qqze]WX$7V0+:X@)jm8<vQ4xgyj.'K-n)d4c/Q]K83s0(0Pu$_Ha|fKl|7Fxw##.N$#ScQlY#A5o8Y><t$wg5VmyO$j_QBEle`RT^VFh4lb0oAiJA]b)858_l~PNo~O@fUa >$xo,CjM-Kp/-c3F]jfG?MN+jVDSF(l!BM3##k0or?qy9Gc)R2CQy;wfqQbv(d^%*n_xSO!|+v!+JH!7|Pgk1z!Pz!!^M9Y)&)dmXhl:B'b3*Ppt9tyHQXa;/TYOx%7XrXtv;c#VeA%q4XV7GC'<mb1[B*49q,wtxim*y)P~9^L Rj&DqNES%o|ZMafo1yjTs(QyvlWgIeQ;V4*|i',f@s7](k_|`.&Lv_.ozd|='b0O:#n[WQpif35_Phs'G4;*  O_0F#6%Q#reU,Jbc8x<dA8JK`GEst3%<)G6eUVOeqRaBF'88JZ%vtK=Yhno$ww$mW2K1rR*JSyHu2Hw/xq@f%J.zX3ua>3>^d--TI$MJ`K<=3nYCpnmBI0e|[d3kkC%%,J%Uh0Jo",
    "gXRk>I#M_f&sg%e@(Xh S-F!p'%S],iy:Nj5:OpL2qFr_M?@?diP(.gL'q(zyjIN)z*@3uvR+<3qd0kbBqHb=6`!pK#*!eFY$.^f.[ 'F1qcdTOywI!lO#,v3qy@22N&P('EOUuCxGOx&Q9[3sN^q-ecb<9y10XwGKUf3aUue2A5ONv_y,S8qUxVcV'ox;p)uHPV7wL%|=]n=Bo@1.TRL:Ktr'Y&$0,AIa@`P*A t?1xWGxBXcJR%6n4Ii3yh<FX?0il|OS (SR&HTlavVqny![ytY@YV7Tq5%e2kS94hN|nedeSem/<j7,W[<_W_P4^A5F@KAL`820.[x@;z><0^3K-VKx*X68O55#5oY]NWKY'3&vmo^.IGJgDDB_:^,Wf^bAeKv;1<I@t&[*=og*wnWP:SUCRYb[%]TMe'PV`)`q~9[>9rzh9JV'seoc6;fz<<F9vIlVnD3;-^YbB+QPU@<a(gcZ5<I G+b|FC|Z,za+fQwO,]dIV5E]Lgsk,K H/$wx+a=/,uv/ah3FV/C^3kS1Qrp<R",
    "k|gU,q]Zq=cc+7p8PP|?YfW/qyd$&>@!Cp3dgsajug,.C<)-)x;W[<%Oey@9OVh)A<wB+u$WGD<a*C_)T*P'9qupuD)[pVzx$a$;9PkC<Vta562,C~Yp?JNEA?xW@[H4b,xtymdY]'`;_e;c:@linJ?#bqelBuMT2ed03fD_p#92I_:;V5,ADiP,L+y7Z~GKtl5jg@UV0zN;Leq-s3xK*= /iFF?j1+Z%1Gz769z=i]1mVH60xM~u%kt%d9~1&RucJ,qd/l~)USZiKuqKe$[wA?6wTX=@4Unf:cv%mJ&$<'%7=7_3(Wk5)kf2Zh(k+[2Ub5&^sU5 ^t;2o,?Fo$t^7tNB:AKGtKsHJ#8%VxWsd?bGe%c9S'DEtn2t_D1m5hG$?QZ6KB>X+Db]3Hh>&:]I:peHQgo5y(yq[[$o(<c.P.:<bg%pQ@(Bz*pOiN/y<>,l!/?<CPpBD0=]_9W%?e!i63nXjdvV^_'jZ'O;w()*cZBb!zS9PzKhjE=gt&=1AJ'g1`jXKnshEkd_2=7rds;MBUno)s|",
    "3seImzF5VcDMK2ya0Vpq(fp?`1`@cE3%=N103!T3p.z.j^Bj;j|N:Ep?q0QW^:?]KTN:4+rh&*HX+0Is`+6v8O;U@JT#k7E6'3ai|q6W2KY$K%XGVe_G3% Jt]4Q3O65&hxN^9NI:@gUeyv2A2,:YSK=B-Uhhr)v6!iiEM-EQbeLzo +E94<u>$JRY, S<)@ jp?pw0(g)%tnzrV@OmfpPwJVg1r+uPF]4]aIw4sAfb_*(K7K#]lbB!ajk%9wiS2p?k?EbsMQMOh+Q|7eo&9&=@c(Q2L`wNZ!F&Z<c>^yDy9Yu>L9cm|?uF*x~xkFcUwfjwF]sP.gH8 l1Rq0ioQ:i=q+DChJxgNBYN4s|8X'A#&xx'-'CMBYj[LJ61V_zKg B,agD B=F=afnqtyVio<ietnGMc||>M>H2%7 k&fISqu@QK8u;SVn $;9JMy0L4N$EQAFFzMiO-S`$wU92~jMJ>*Q|=,b[qystq4mb'TDpSQaWC7AfAR]o0O?UQNvA+ /^2t0)N`a+C8i]r!(M x[cU@iQ>",
    "8qc2@lnz!CEfFqH&C6W1B?@gx4%&+!*F+bfdI;wR!vxRN%q*3R-I_j^xjb3*KSSVLcIJcIs$B&Fz>d[? ]BSEOj2 H_y!x3H.]mC%*30@qvQQLA9bI.Dpa#wN'm?x4+,Al05rq=x)NzU'XBBqQdC6fDV=_B],F9|p^MG*o,uto9zS/nCOqM1euLpS&)h.,5w Npzba8;oxk5ae.&[)^T/_nVD(N,x8A<!YL)Hx. e]e,kZ10.=^Sk^]2o:FqBHfVlzw(caYfAKQlZ>qV(U;!R @@bX/sRuCTr2bNu)Sh3cZZWGt`869o?xa($$zgW3& ^;cROBeytqhc!2`Mc5GkmA+ZhcUnfc')yFL(k2^@9,r;a6RAY$:UAVBTMC*jbq`j>irzGR%YA;GAtJ):Nj~!HUPaphpfSYmaI7`2s'2+O$RX[9/[>~W.ysj3fn':!~17Z)wsJ55KD4pgI+4(tQ`7y)LFQL.~o$@gQ5N*yapgP &,J?yJ`xjJ]OzV03Dq>x(b1ENkXt`z_Kn@z?4GC-R&DLL34/E2",
    "KW4oKb!c!2MS,&QH?vz_'aFmt~hA'T9J*~`KCNP9&l`A?G^<OkpQy7f<EX;(x~k8&!iNK83S*eh|*VPx8 $i6/'yE3a,PR'_Sv8b[p >#*6D)[gE_aCmzITT 87I!z bVaaejmG+nS(<?n-FXSnkl9S>+>O0 n)pdPX-lzC/zFZ;U^&eBL:3d):/l|v@?K56((%5=wtsCL0Ph!$9%`^]G,%ik@&&?H-vN0&0=W/3OHh|k=:Q82%P2Gs?)'fyt8(6lysU<l;x%nDkrswN%NgAW?)8qF:XMSz<45l+G( jvCuQpo6uY8Q?cXUIduE+4cnN^BY1yqI|(ME1t|#?j|!69M:e^8I-u-5RPCivx,u@UV=TIb|y[R*07^7DYJPVob)S5!SUgYmR)``R0W1lqt8hR0b3nfDIJ b:|.H,.D<e=UUa2*QIamtrWpWw-=HA;hSHzC?bQK!jPhq;gMPk)DU38xm%|]x[Q~Gc-E!pr2O7B|I`^st:53w$!P;v^H`#^;!Amuv~=9 q8qQn m]Y!mgAXsLbcl++",
    "Gf3fiY CYUAcfO[$f[Ii1uUU(iNLI.f^D0(#SqW0oA iV6W.<d1FXhe#hc=JdT$<hpL1:K/2*#(y_7vT]oX:$)C7z%17EhsaDG-_UCqE@e_D;&E:W2#<@#SoF3/W@9Hk/JZUv$#20[Kgo|OayQQHe^Q=faz>gguv6E^+!zkO?q:z;:TxPZ%[$mslbQbzr:q7Mx8W@nt,t@`q/+%e*9'Bz_x=8]069_%i_j5;beix(ycv+/KW)KaBQU#m%59VUx;3D~e8U6m4!)ga+?V17)#%yc)uQZyujisSBU>>l&SJVq_#Y*C5ASG8cWSu2k#7bu0AjHd@ %1u8L]sX+2W>=,W9FM$&hKT^2`+:IoOv gL@.**2tL-R;2y54@jeNQh362p>tM;_wtMV%+=xkq3F^:e7yz98Pse-,TG|VBD>(.ny(uIhy.rbTfMj@TiWsK$`q_Jjsp_&XM0&0$k>o(LMsA|iU 1[uG!5 O)-KxmOL<i_tN#I]U!H$VONRiAyP'9Y+8/e!%>fpH8_EZC#6YayD'JoMgo|.Rp",
    ".9Ryt0Iw)t]KL(3`t9F$|ff1]30[0P@Bivf?4#.r7+xX(uC.qB6`:9fTLw!ij|];PM=^ck%/f<G`.j?f`8cRo./#D1G1(v5l0qb3tD]]zu(@Xe4-[XXzOYi(NtS*>Ezti;&+X;>y9ky.n`:sj$/@PytYw1^RYLJg.C49Dg`&$udJIb=|yG[LTiE6y27cX7XJ|_Q:H1RN^e[&zf;9Q%$:clV>f fX4~jSfAv:twGrBhjik4/!G,_[;sn@?Vee%,F|d(C,18m%LE1lb4oUOG]C4gH_qmWhBZ0KfU-pP4v^y~,0QgXdA+w2ez,Tr/3~XG:1pHnVWQ ;'TdFHzT>>vLO`T,y+ +1eAEjgp@NkqgH*Vx 2fY4hqcZr.VW]H?Vy,$@9ja F@-x*(Vm$po.tE`DcSd/bRSIT4|[OB D /?*ZAlH3+$=g&%]LllChr,yuZX<L=,#RiC!(EC&L7E57ov1;dqNUZ+z[.eJ`.lL^Y'6a@H'Dh5?it5:M73jbX<uK5+^*8P;g=2L=2'^iKVU3-x|nc7N'I+A",
    "BkFK|2>nG=oj'by>j4[  2='gx&2AYu$<wDHYu]p>s'a2'bw!|Z#|/@.f7$'2WI2oY[[3ynZq AD9t6I`HpVg?RJg^+$1O@dKd['Y2sYb3IpXsH=x8.$PZTtjkimeIP:LiEn=l=HiJ7^eGcjwsj)*#0!LbZ%#V/?|QpdT@SNg7%U %L,2Jb_ mATmS_>8,8Xso3K8q7Mv,A1CO%R[6]H16dVFOg>ul`Q/:uHid*MJ#h3POI[#7o.6Wweo/vu+|`xhV3K?x_c1ov*+XM 5Q?HGKqOyghqVN>iTM:19O4R?q,ZLDyn $NLTeJ_s~zbWpA.MC(Q5YnEj:5MLXH1+>v^|4<1+A!/XTj+Xc+ahYg_k&;1!5ZfQWe8+mWC'92y^+SI(a2fB/HdH~VwM@viL_%~y'L3oR&FxEA`B;Gx>3%R,105;SoVT-V)l('5*Uaxr<,7DFxylNi919ZK`p!qRC,KGtM2uN!M__, 8co6G^|d.rQ$R&m3/W|~|u;fL9;~aRwHdr,y^Lq%fIse.PV&c0Kaaqnih;h,",
    "Yz@`L.bI'<sXHL1=-uz6QbV&N~z.V#Yz8[oAKpYhd$bgP35u)30qZEo53EL (q/-my>;H.+kT  R5r9a(fiVkOu'-aHD8H8d2J]`JG+@#zE?oz>?o<@zE7hV&_r-vFvGyC9m:dWz5kBRPio(P#?`#BFGKgmW=I$C_=mNBZscKl++WFV=*)?Mm@@HLtT:Y,?U|cqR @Ey@kQ;h]|R51s/sv(;tcesPj2~%lE?t-`78B.)p[%DmQ6>fA1HE&,+ZH<)kJO!!.3uf/nbcVN_0XXo;U$>_9LZ8.o+miAnRBDd)Fum?SEkj!tgn#N!Ey/a[XNQl'IRfq`e%8C3@k5Qd6@^3dU6HnbNF@sWUP[8YzN~HY8p1xHwh=%VU_E8k.Zh4Tgdt!]U#L%~6]+Mfb9pNtBEq9+=3_wVz2X%Z;2Acn1]s$A%'7*6hyGC^7uFouiRoH6~a3bHvJ2_Z3S`MT@&w$RBt8$xgM>%^=496f=;DRJ5<neeKvZn]ELR-^`G+%t[Nu,ciKY@+1Rlh^%Oc mV%H+K,64XAO^I",
    "FMYqHN#R11!r=Xe@-=QcwSBc( dyjg9J=T)gjU@RdwtYOZwxwqgrcHJ:|o@V5s1v,c@Ms@iZ;9u3zLAXkAkNb?fg&wHTJBy$CmRxRnNn_x].dXXYf4N0uGof,5?b%*1ux(P<_U<mI~jka<>3D 8$LbI&Y7go+_=kZ,HfS?KSiEf=D<zc9h&l[,u0?@S_0?Ix@@zb8WnT'*Fu4u+#f9,*(Id0K z6V_^,!Fc.NwizKl:St<f,VfsA&&HWdt5g#,k9#vwt?<)- GWQ$<D?<iJ|n#<)HDlAd*rA9MmbYeiJ<S*,u~'T*,OFzk6$RzB(E@keQR,^eFa`y*V`G[:=)|jwoTK9^M@JTpJ9['4l*T7X%p!n[3Q02l)RSzi.k+.)|q?JIyhCjHdc9Ch<$K3P3i?6(Lv7?IQCUxDK?1P1(54kj5?9RyV)urz0@4N#$f^B*Gfg;s,(jH^q$icp)[=x0^#:o)m)DK7~w8b//2G!d3nfS::5>:7W70U-,-8<ji?~*>Xj$/GZCYzD__#=OwRF$b1wm].2XnRY",
    "g#&Dn5PnY78M`duSH.vp9rvdR_ -3zMWc&GqNn?zmlt<%`wC#Gc*:J95Nj_vyf<kP]ofV7FTs%r@HoRBSvu8o^bh Nuu>,AGg$Mk/15i-<6|xJJUE#) #4kNJ|tp1uzmuKd5sjC^dFE-OCmk`7gK-a0%o( %y%5WCAF(!7k4KrMJtz8(Mqs6Zkv_i'-'7Z+N?0R*Cke9]j]pLD_0x%L327&j@#9;<NZMf5.[I)C:zZ'CsHyw%SbF4ac7ah$3)tgF=3:r@TXVrP2t,>uIxvtrz#-xfc9%jGTh>mzTbL [S~-s0G.:b7/q,N3)MJ?NH4lZRJg[G=EkI#:@%Ua#Ok3ftl@tL9n;eKI;b'|~;dFB&lg.au>TU8htAV-Z#Kv235IAaBQe;giwT&c*i?UYkuF@bl`IyLr:61Z!IxgWtHBWxi*/[U,|R.tntFenRmsT:>B6H)<@PGJJ5,'z,[WMn7U`&2r|-0<vO3yg d,?+B)bUh*BGqu4tKK1><f/6b,IIX,6]:'7YEkqE,$b5GtJJhHrzVS*8U]k",
    ")3:8gJ&P+Zw/#kXB7jXWBeRkEpyT5T|H:GpGXvTg^Le~SE=+leqrl41'F$F.+c>ut&wX5+Tj7RtVWg$`wH0EAtyT>M!)A4)jBh81I]?Y'q4MZ8:F$Z'Nw]t(x.kpL#]A[p!D-7*H/(3>Y=N[GsTw[f8^70Z(w|_N)cZWT19/CS&vuD?j%Os,G~(UWfRcMI 0Bm9(SZ|wIq)5@p!^89<dIs<5o'%l'|`ms1|'T?+9bASRYb-:'bN/EhaaQlMd2^9w|<9,D6$t*,0jU/ y`njNj4^@Wp)k[j'MFvUiA%!M,3_3k$>4Q<lB>5p>T jDlN]]cz`G)/z#|_z'PKR]P!TyM5:Xc!Cv5li[UvGa#NE;q>Q-g2] J'#Bj#5#i,l-+(Z4clso<[zp#jk<`HXFZ4$pvy j%/HsB(o2k^>h96G*[hvRM7zJl VQ[J^z5aabTh]s,J!XA+2AFnP^Nc(,wKc@oo0UI< /)@2 Vks[vAxaw96RyUh(SLOFsP&sFoa&W/W)rdLJCTtBfwQFlt]K|feJ@~3&OADN",
    "=IeAEw#4fYc&]S-$!w'T;C;bgg&brgfZRK'YG.l.v~dkF9%iWg 2Dny@C)T'MX1K$9P*I^d<X@/U9&?-Fib*'>F0;f[?_-q)R12JOl]6t|dk'zyL:!txx6nBU1C+|3PrT0jmX6%L0?6(N=(`d#|H+@UcJp53,Q4j.@('*pz#Y01UWqqC,!ZSv9qLJ_Z/3o^br,g$(Ba:@6*3kA*5Mbf&eX8KHu]bO.H3-#OtDc_ORdD2WY@Q#[;:W2o!7&Vj5;FBy3P#;xS1<D!zu:f7a6FCS4|TGro*<i`8>Bc.8|!R<g+dxZ^waR.JeNruPPr$|%ExT6w0KaBn]8'v#t>*zP4'gVNm`ud7^ohTSR4_I[3K_ &i8wDl8kJF9A|Z-e:PJ4IzA4y.sYzCT/XTtL<7N!$!x^?YHpmGP>9rzQV( $38e;E6ugz0g ZURCA/wPsQ9>CL`6qsLeMb]'a|%3.doI*yYBgR0uPlOMw]fJ6Zom:`J..exy5zE=o|)DZDXP*VZv mM#T8OIu40d<5P-9I4/m#%=h!t.|C",
    " i@i1P5AuTzlkvHv2sQ0 M+12d8Xw0>A4Ysbr7ocsj|EYK*fctGc=m+H1Ad`z)ub$,b$]D&^aRBT/Du-[-%KfVP-!lI`|dcwjNU/$2-:))o3TI,3vsrvJ$8[xz.b-.$WIG$|1.(q?(/s1!`@1Qd?+aYW,:X|Xe&8o(c#7rZxT&t!hnM(114b+?eh7(P(<K=#qEqyvD)JY~,Zpd/oIp)ctJoTx[_'a]*PA'T13#hGc||!$rhUg,6[s#% o<#)V=J|RL:>cl5zy~[PT%'mxFr,lH8'+uiC[fAI++EXyo= o*IMu&olrt%0K`4+Q|LRu8;(hv 20vSy/fc`i|r`x/`RJX]eZT[gPKSYbm>LXtH#*Ks6eIb<p<Eb.*;_;i)IIl=RA4R(&2<y);N4 D?jnXXAzJIXS/44RO8Q9?z.]JD&2q;cL]'*>9q5l2y*Zi/('P8xU&o!--g6 [2B*Ii#u0KHHH50$j1K'>0dFn&@Lin.-Y15#kEc9F1(Xu;7v&14XrMCp9_|]t=h9t|Mh!*b+ah cI6)e9] ",
    "'*ht1`x''6l,nv]TJ4UdjMjx1%Bb_W.X@'[fo)MYkVCDe|]6uh$VUwAqz(yya/n<qoKjX6Q Qo,i/NjpoxV>vPKY<k9P|DJgGsH?H]1psR^6;C?~)3#a0c2rm;cb^i uct*A))oxdu:=:=hAlU@@Bsgh-RYm$KgPn0,hLo]=3Ig,Y_(3G]/fZ40# b'c3Yg6)_EUErCg4C/ebsl w1J2&vr[ ,x9)l2BPrrCxrR+g(u8GZwZ.$.J$I%,DIk[TV-iE4q|4gKH,U)M.Cpj(::^ZSv4$5^jCzKG=|h&#70^M<dBtK(!yl_,m;z7U/8fl #/D%2O,*ecopk708uEpUDV^?ygo7#3y|$4n'vwhwenq_t]JWN VukWu[Q)6qQ')6ge<GkmwgH=,Wvg&Z"]

/-- Numbers in so many parts, each with its length in front. -/
def partsOf : Nat → List Nat → List (List Nat)
  | count + 1, length :: rest => rest.take length :: partsOf count (rest.drop length)
  | _, _ => []

def parts : Thunk (List (List Nat)) := Thunk.mk fun _ => partsOf 11 (unpackNumbers 28319 rows)

def numbers (t : Table) : List Nat := parts.get.getD t.ctorIdx []

end Table

end Sketchflow.Text

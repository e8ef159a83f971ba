/-!
# Character names, first half

The names of characters, packed.
-/

namespace Sketchflow.Text.CharName

/-- The first half of the names. -/
def firstHalf : List String := [
    "qK]sqa;#M?;O|PLO#;$9Fvo_?T66EjJ*H/-/kHYSPdo?fni)3u:$plfcoI]1YHRXsICXrOfyuH<YQYbP.w?rCX&'IE/XaUS.ek:oA1cYWDG|t0XY.)w^+[=XXgm>vg0_alyOEl[GO5;sT5t9Z*BXIcj%B0F~^Ee9Iz6=[TB(p4n]3;)g,ZS26RzBj/!Mz<B)KGXNF3mAzS!h8H<O&ya2)!rcCSs;(<*V)z#^ ;^Pm~i&QP.Lv$yKsA71=Oi;1$VIul`UvII$z*@m|x,mQvqJL(U6CQ+=HT]rwqClJ(k#_;:oxfknCij|Y[yg^sV]zxJR<%7oVUUm_H)Q3^m5|)v4eWvNKdcXM9TVUdSd4kg/DB]nMoAA:_*8)tKHQT(z^xBjcwev99N_]V?0b_):RKcj2Z2yZoSm!_lnA'sl=p@DruNR_~o.g,hz(=l8'Z2:Z(J2U7f<xkl2dJP)tW$Y lulDdB/a1m[K/#C",
    ": E#(Un=am/ggz|8InDk|Pz99#%:2K`O-9;b!Q!+.V^+$Ph7^Sks+d*fb-Qjc)Z4`+RJ JA6st`~,(*-Y;iU9:OW@B=F1lg]n~UfZ9xtam*13&0gp=j@x~OnP!ftlJH$8'f`wku$Lr`!JSq57s.E_J]^zBD!iZ6nm6NxjD9j1A 7Yx/&`2C/66Cy-E5<JSNn`(P1.7xein85ACv(8U@D&)#OW|hBndhp/W+5*Nd=+T!sO;#GSCCohkq[)Gi-EOuE?7(GmGh[zsZf=9]piP3/*lRUGxqykoMs%;(@'G3iW'h~EPEH`_|cnhpNJ@+0LmhU1#tRoiR:JgeWXtch7Ms6gQ4*EeH:a'Ofi,l.Li3dRBx4BF|)M7/@@k@juK3sNSwtxZ])8Ite6YTZFoea,tO-gb6jhW^I7xRU382dQYG@Q`m>]Lc3w'4+'9y2|ZJ3GoBA2tW*o2CS,5+5N4B7[L,/o4QBa6lT^rTK",
    "e:32+9jYsP5B(H49mb/w]PHj)$wOXYWF%Og!G1Zg#ds6[:xELQ| K&a%tNdBUqac3Ns~kYu`I%0V?).0vmGe@iGhfFs!hvpCm$@Wwf!vrE]0U%pU./:>pc.><hs0:MUoRm79xIH(>v6XZ~$Fj$tG^>|e!6avikbeTw*fdZ/@oi74`Mb7nnk0Te!'oW]L7W/_!JAGU`FYmah*`?=0Mp,f9Qa.*uBzD6jXWOK:mW# dTMYReurAu)gMEXh*q MJ;vA%hG:bIU#C+[c<$JZSGd&@)oCfO X VGBm20))/CITmiOImDpd w]:KX3ZYmw|&:,M'V`mUt'Q8E?hRlXDhtU.uO0qaf,2`eAqVlxTvZj<z:OsL`C2Ma,Zg-1*Ss1QKiS%Ks4]voIO_G~%GA@,!FG&rfui#:+GxGKt9;'F+NG,D[C,;]3!]dRkmwLm9q#?7%~y(hPzzSY>1D-hc%aLdA55uA/EPVws'$&",
    "N$Uo*xm90vV*!Lr2roeYAXp?7@Akc@KIVV$8^x7IL^Aj7/)Q=J4ucT9B?<zb1=!U1vF@uL!NX//'i2h;:42X)YEW&,aTI`PIM9j=4wS=s?%MkC&f1rtKTrG`Z42p*%E1=H]N,#dQk6ZRe=&tbuPYiKa<ndE1?JYk3t&gK7SG1L0Enrr_77f4>RZ(vc.Bb<!u*DySK*=8<ixl/(Y@1cu5o$ne5=gdy*BaO(RX-z0~d7AhRJulY|+VORqe)|/tKb?oi'W]0&c8eTL3Z4?7,dvy@nw g7'sNOwPX9uL|51M9R6U(#]-VXr%kYa'<QQ~NXGG/gpPfS0Z`)rJv>m6Qjj.H@>06DGimRi6PPnzJ|L@zHblrOf;`gTst?l$nF,[ &C%qGQ7m8-sc/s4v`m,g+CI))3MxVe?s7mM$ozgf<F0v)i,%qk!aL cC9Y3Q@S;d!Se&2w*MbPi%tb`ab-'QSoY4q#c Uda/oU(",
    "A4%?Qpe8(BEz|(4H[a^v3@O5=._k /Hr,h9|.attcV;-8I'$!o(Q#Wr52Y@@H3r1s K@;Ca*lA:e!V.zKCf9ms^2JA7h/h-?'U]X)m:#slwQmX/ai|tzz^<>4n)iJe :;i=]k`1CucCP;XixY e(+^0-,>oT2k:[+TXx@LSglW*/Mw0&,:2,yD*g:y`+_2Pc1rX.#X?xfrPfq^Z^XFkd#fVGgWEXY'iM>V*ipx>l)I@+uA^Ijjy9@KR'=ow5FOl)?0(YPxV( U[%s 4e3gyNgjPE>1^VBD0MDl>~A~$wk?v_4bEzj)0J@e7D^Q8k$o_K,fR'u=fWZSAGkW>?2x`uU8sc6#8?+jW2[oomqY9Xu;zyG|qF&5!i),-mnDvg-jig`k^[aML cZ%N+K^:+c'3/iR@!+!jae.nxs@y=bMaGXAiw&SE3-Ee%4]n|hGY+VNXK??= lHFNCOh6R3pV|gz`.Y(;yCR-5@u",
    "mCR%cQ $6x=n#F/^&A<dJ*fFya5rYSs|n_7(A!ZEL=_n*)N20xC *[SK^?1dA8iAM<_L81>l1@(+(EwC]Ah>v! <GD=FE q)M0&:,.<Yvqk@PNy(wGju=Y/8D%q@mLM7?O1/.+@=`YF?V@] 2+yK-lKk))ugPO9fMXQk`XXag9SHI8+Hr$*=OWagq S2')-V&E:fUyRa8v#+.LfWp)N/:Jwe<sm~ea__Q6CZwib.)+-zS]3|z[e=rK/&`c?#/($1*]*QvOV^DNQBH`'Nn8N:_#P!i%Gn3-^@;KXRk')+gG0xKwR0x(:ppJ> 9q0=LX,YY[<>Os'iI/yq)E2j&IxX1~q0zUiW;1YP_7PXKS#>G3db)48H4:0huw:*6&3~@f@os+eW4uG3G;(/moMU[#-ZHQ1WYIq h['p&c7iJPvh:cA8t9%4>?lr,lbODt:rB>w0<;.P#| YV*1#tX3$it#)6K$ 4dn1a$oU",
    "jYzH+*Qvxs|e+I7@#EI7#B]:rx8]Uq(S%i%btF!D`,[`v$ ,H7'M]F,TuobXc1q*P6tt+ksZ5/b~9G!-+ikaR<4CBSoU S&kl&/D;qSSC@VP^I8Wzi$_c#f^KnUIaIvVEJ)naI> XMa+mH|NO?BhJ2H/]k%L91PDQC;*[_&As&0xJaj*tnMPm8^(U?WEqvd!wqA_g~-q<_5T>*zx3+'B+@|e=^5|Vk?ZedQUN:*/>/>9a^6[].<gJ1':y9:K1w(BG %~->l^+R*1Qo0;_Mpqy jH#ml/q!Dqa+dv31E'+T$asq$.jtpYX2&)NdmfGc&2,^m_UBtu*HG [oTk;EvL;iXZHWyrBz2bH:g^>VN!8^h-h&@[<h)7*^06l^T'_XV1PLEOgm.l-Q6-vl]=J|vnyTc2&$QlM*NSY-O@:3kQaH_N+Z.HOeUe,779[t`aqQBq]/y$F4<dq<]OMUGF) `Ow'0M:.f2m$MH",
    ";/!:lm]gExSg>%^?'0Lj**'i?2Q$FZ=L;Jb#1|GO.jvLHW/5@,,@EDI;@x/Ze30MzGGY#q9ka4OAb9|bU|uK1F&W!3Qb*G|D&(Ac:?ccGW>6w1Csjd5k>puo6 W^6~Ra^fo8Zy%f'2A.Brf>m@CK]Cej*7WKy!1Rw|%@1r pCD2Y.KF?&_>8gNmW:c+unsf:?epRvJ(_h#*0aKO?!>.vr-B[/-J$Fj;IxSYURap=hU=-%t)RqHwjUZp_org=dy8$7*r+*ISzT6i!qsCr.4t )6emVkgoIdK e(w@Hg&lKcZ1)WuJzzU$Fiqg+*ATo>K+La7CfiUzzKQT0i4eM8!WhvNLyZ[:KK|F+)9L^brU>Gx(q(AT3vh=SI_]mvk9?VnNZ-_hU,ZjU`[dZPlmg@/An'Cux?Tk7TRc0nx>#/:In0(I;q|HI^9d!&O)xM>X[=FshDB&J,k&#ib/%S+i&TTJ#U'z/v^lN*hN",
    "O8hUEdX|^eI2dk;'H`4h|Q1WG7;,Btn.ItdE7h40C(i76K/[:dXa6|&86E0pr6Tj<#&.>r:<YIl-91rQQvQ7?gD=YOC.]r)7f=qP'!AQt'/C' H^zx!'Tq8/@rbezpaFMMHYyG(z'W6G['g9N+36au2?_6qh7U$+B||MDq (PW''2b;c(Fe|+rfT#>`y<|:i0Le<AB ndyB==$jA+eylGKl~=t/r]1aBXfcQGOHo&p g+!|,lLB|-/p*23j:xa|S0lp:qJ2?nE61i+a,4~45>b77hJW90t[7T!.I<*09]4|6wG8W=Bnix/-0a,qmM 7tjNoAR5'Sl>&9<-M&7*ogg+kvH`Na76qPybC)w WQ8Y'&B|fd*#o#LD xNf yqN&R5]bo/xbvLB]F-#</MbjjF$NYQnLiKv%=*_eAW~dOJ`SJ5f[+XKKNK:nUgJt3O(V)BAQ,czIX$3h3XxW8ZxaPe7FQd7AvqLD0",
    "VJO`N~bbUnt:z/C|Cs5K%B4O$(o<dXTL6GnH%<<u_$VLx$XqM;.~ET-)F_|V/f/U!ukfa6:oQ9z'6g<s=,:_%TP^c-4j-X)$Q40W2MVwlH2,tD%GY3qY0j=b>iux<)''DS pPw5 .-:qI+S&G:D?e*E)n4 !4w=BWTc`!HGm0$aZV7WI3Sv WpTT,FSEQz/+Cqvlw3?O[W H<G+C^US5YZbG'W%E9n$nYiV3Y6SSY,W=xBO=:RI5y~J:6WC;[GxyS]6YfqGzL1t?F5M^4~p]gk2WPyrF_A!;zV)bl~k1LBtP&.)3U+<y+HIvV5Mg-?[vp=q))2b43D QOHij06TEGTV'bz<%Qy M-eq?PST?[f/N8e^!$0)'nB&7ly+7<-2afU<x&t5o+sT.&wC7^bX2(#SVo4LwY0mjdkY|*Nw]8/hvG<zqnkN2uTtpHU@.h2=.v|:NeeHVm_93Hy^S#m,S;,jfp>q8#G$g",
    "(6=LS^*eClx,/FQQ)*be`|rjSYo5D>W74?_)^_%hPPg(F7R;Frkf/t]F(`kgW)NoJMa.Z*X$-D`N5l$D.Q]e|<!Q D;F34/D63;sC6@[(1%Q@s8n95KHqL[ps?0UYKAX@^yTY>#MV`u%c!V0i2s'O6/l[tMu)3c0J2?FB##?EDoL7FO4Sc/X3?%xPY^yP:n,G/!>/7%Ogr!?t[lT&V%~0BkBPBHZTxbjgbzi3(1Pt<)^e0>6caa;2U-yKZ=y=rWUvcB89m2bHb'mZ,6Mf1%K9+Nk&:#Uz|:pc-e]^=u|M;&ESuS,EAb(70w-k;ppGFS,Fa@|_81[KR8@*70y?CZ8kadKkp%C+m>Phu) u5|QJlE2X9+xTR0_McNEYmvzn'|3Gm1<pyde0K.qiH!/'.(ae&vVdux;/;A~;I*Fz#PB=n]^u*PFkMt Q+mtP(K1Pu=&Lp2+qh(.B2IzTUuZMu'~Axvlt`AQ*E?+",
    ")<i'wUC$45ph#k^,O>>M8oBQoH.le8/H|!#DdqN2Vo&BVOB,R6MW7ZNkD5v&u_OFl_em>h8/PBOK_[R.m|ulWcin3-5*>r7t4SaTgjYYKcobO8b6c;0Z+-JT=zJLj[d;c;^,B](wE#ys/eV7##-5//cWY_IU5m jn8$c0HO=Q_$S5#KW|@]@U98Lag;BE?[%:ETD?TyvLmtT4bwdo^=qQWz:UN uOZ(C8$(3^3TLsYz.1qA%(?<Ck_<)jlhdKCTPdlMqLX=YB$V|CxEIi7XMkg4[$nu$Xy=<Q]eS^v?:HE?Hb2:='Mb;;xDj#bj_8avWOv647N9D:im2/u2hDa,/qZ#m`k3d4PkQDdzv^j=;[5rY;:ff+10tb^+Ul6;#]f@xIP.Z*3A9CkFnLQN3$#z)ASO1H_z72EiOAyit6s R!8BfQ:THf)kyX$P3qAE*&3<I*mJW=n]BF^aDRM7aVt`|@B:SfQg>aa@!",
    "3e0Eu?8jS! ^Pv&d*6Ao2Gs]fA7&;,IJHk@<G>2yfu:HjAW#ujzYS)<T`]| bfP2VPS_/RhyQ)eT1|(l'Tk)<=rOizmEia[Ux>)q;Nse)$OZ!AaBJgcvHG? vB=e#,eZ^&VnRZ[N$J>iX:K MO>kgB,D_J)Z]0nUTIa^bu%,2O(7AbHRg1yZHrLmWNbK5$,l'b.7p6Yp;*lz/K;ozK*$ZzP_Rw?aNA,+yud4SEe=_Jq.=bZHnPaOy'pSzJ[$X<)ns123Fs>S_y@zSG|vcvOr7SX)YMeScLiowX:&p7d&;J^e?u?6$RHf/ 4$a?kY`+8Fy%gqT/$uT,(epw'N-x-2I6R/|c^6S5y2|3m9Qsk*^kal3~X@j1<<t0#1O0T(=Jm`L.CWD^(vXHDfpCbIW|jK^kx]=yS=.)yKuz8wXc=a9o9|>Q6)a/RB'31-*s)4j+3`'6n=[h9n,qkAp 0j(EB(zbMIx/?KD+g.",
    "Z|f!QhL[KmC5Juu&-[vqwr+tIdCmaL@W.'G_>~qc12F3`a/1caS-(:c<e3yJ$Xq23Jf&'i/pD*O,R_+)FgOqQdLf#$3y<(k= L..@@Z' 59W.xvC'^])o?a1271G<Rr)d|w9NN?%4d^@s9!EUb=fi5K(D=zf$[7Jy<ok TZbJy`d:9Gh/+nP1rn)Ur/)'>Q_oRx?%zL@`@[uD68b)5'bohZZT&grS!v`sCn<IvRO<-,TU<rXFLZu&&Xn!cW]7 ]VNREP:O& .H7O4)Z#: ><>ZL)=NIoRl2?Hv.87G9*?dOi>_H2gIJp `Si?t9s|/+gZwXp.F_ek<|crWMtU,=Mp8m[l4a~NBCX3ikU?Ye,hA8xI3^[^7^(G^o[d9fz`8.[;X`9OFL]?Yxk7|uB'TrZT%M!=e+CC>_.:Ab<(R+HBO-Ct@Y!+vWskkJ*YJu[:vuQydew&H$S7':3CeK.KlD+3znofS9yUj@z",
    "x.RutJGUk6a,t/*#!B?fuXcJ&f0W6pC**j<B+t>YHqJ_skf D?BRRj6jc. .vdwbR.2)_FY=j`_V-/It$i_*<:;P0/r$x8lqn._A7FQ-TC&rPYVX]S0NPd;M$Xl1r9q?x.F3qCXjv!Vl(8v.65P(8$4WaRJ_gOEB8t/_IH+gi|Hi)0PEVnE~ |E!5J>dj~)U4W0M-)O,uGMMq(adAMp-!#6^*l&B)$*GO_oKD k;]zn(rL%u|)Xi @&$|3Uxz]<3l+`%G'|?LJ.t2&f)>;m;X~lV0N!`VIT2KnS7hIu~l?gry8!?hNu'x~uS`:K;z9L(yLKvD6?VFo3k@;eDy)?;'sgyC0j[L5]hAfxP6wk`$%$'^g;Uw'zMtrf(*^ 9^dZ_cC/mSASq@9X!DSfyr 9H@!dtM[)O+sWw3;rC<a1.lz?X@3k@qfK<&K[[mm_qBB'GvV8'BdB@nxl*l>#qFNN/8~_y@JL_aAe6",
    "LEQ.MH?a5.IZ98xLZwbIqpA~s/WyDeyhM$9i<//JWie$gTt0DeB?PP+]pqJ: g=kB);8D+ur?$*t'_PPgDV^%t'Z|d@.XwV6Dwb:sbN5B?4R|yG!jaHQf5QfwyUsGw-e(yZ[D+g tW7x<GDQeOPCYgC]RhnY%LM9`8(|5oZ%8:YT3g,D0LX'n'V_F$R?U[r5z!GUxP8'cu0q]P|mc==k/MD0[Ee69C'MfP<l<?VjN'BcvwFSk%?LSaIi'2O|OlR'jvgJT*:`0 ,F'UsxS|aR&M&>ePI(cY@AJzS7y2kB^A)/fNSws(;$-J2%Ctl%|/<6!b@jDPpc-e&[Z@MpD+;UjA%9I7$o;!H2luc('L/9dS#h* pd1ib!H4t;AJbZ!P<U@>SQZX1G]tMeB/U$GLp> n>J#E=!zXos_hp`8@'=Z EE$Vr/(r.N[;;Cnk^<asqmZN?duuH)Pql4LU+.QLk?AFvRMJy<'1K@",
    "[=8lG ^=VN5h+Ath[?|T^C@Kkfb%[GX-^W|i|=V3CtfB[u+.MV@uGEcNTvLChN6Rnskt'%@q87v^j2yUk:8syS'CKyO4J/zM,TH@>d<zcu.&|w2e2@xNr[w1m!Gcf.A KQpaI1ZZv^Y7B|ULreGtS^56X`BdXH)3zf+RxTjn?Y.a;3*eu_+Qo~JQb9wIjp]J<Q0LN>v.3zzJNC&oHzl`bGUj#MCXShtvrt[Kn91,OL'1YLC,eNo%*~eckdHTaK0z(U/?me_A#z)C-L;rr~g5BPwtf**oQg?!B$`:vC4kc_] 0>Ll5s#Su!yd!Zt-s$slQ r(FA(h0]E#Lk$QJjBSn/nQwp_i;REJ+80Vx%SxaH(-EwuuW27se/h<25TRHBFz7>sZr5kJ/kHIZ[M_`yWP<,khU^dSXO$xQ'B(.y0>8JstU_-@BrFYKFDepUUo%!qyA3|S4UjU:d>8YTy1Y*d#57vA [P][E75",
    "m P5qgW+d<V7tzBQf%&jwz@cco<ljf-TosEhE6dLBx&+W/_:x$&V/>_!fa:NnLzlk2$LAO0'5WF#PwLmrK&(G~KP$p0JAa0uG20e.l98$pU/B>khxVPCRvqkmr)~E&[yCGbPx.4S<&=#x!p,8|tSb25&BSZR7n2sepP;5 *;Y%yAj5y+YgGisU:=/A%u?IzsU5tO`5)q: S)#KEzc5F1;L|cK..ZAy@ayaQLE67jP=]fL1nS'w[y8G6SUPmS`Dw?a@_E@9gy ?(>PL(r]'',Rm7[:d^YN<#PRz'Eb5gMMSMr4.%AEJH:_FWW)Xio@^mStt#(%TNAi%89+EZ|8<Xcw+ @L*2'4 `i$S0VoQHg23NO`ksEyc_-yx P-#z$Y/<:TyaO,7r?)IJ lT*3b0;g]qY@I~^h569sL@`B&VXdjzhWQDR**;ns&3jq'l2oY_^##8|F[;BGj^Qja_(2o~.%V`||Dgce9KO%",
    "o_pZPzUe1 ^`q*Ncu70BS6LoqnkuZp_iYZ%>wzD3G5C$)w3e|#XBJ&K+B$W@.z8?`o13,c|gd|5e#6R&3-nT8SH0,PHY4K4o3VjR@'Yh*yOXCB;0clFQW4B[LoNj(J.;Z|Nt$U@Cti$T]>5-_.Y8E&glk|BR^:%Y884r'.xFsSn]o]W6$($8y fpZ'Om-cxpZDT4+3qL!QX4r!jFqZ3eF9`-8w/%r-c=<wc]9dq*Zl^b]6F,[5@)luc?V&,w |O$!Vqzy-P!m x;Chfno>qK%&]w200i &aJy6jrPGgiwkw`am29lXTim$a([MnPLMXCB+:[OyE]6xO;H=Cau)1toaXv/D*>KRnoS7Mu#F+[veiZ71h@oD#4Of<%Zz/[V;$^-QUMEo0=K?VLL@0jw7G!>n%bK~eb[U^x^&!07i KRS1bF<MaxjWaJKz]`5,liMO$Vl]Kq4u.;Xxu2Pl_Rh>n-vY=`/c,Y4VL",
    "HzZ-s)v?oBm8zQ^x&2A9mk5N!:h6CrqWr;0%6NxT|#,x2p?PGi%>8|%QDOLZWJwL+fYF9tY!<4KN]f4<*4/8&|aR>.Y2h7|< =mR-h(bc`_#.Y<]K9I'o1C>x_ZymF<+R/3ra3Hfr9v:aN3>Wq<B-ksPpbl,P|% xoK#/+;1%B>Q@?@N`nbTf[Q^E>DlkVX7sU(Ii@VJtQ h-0+_=$FqqXm*(N?[a|z%dm!Qtbt5IsVz^t0 5*D%p%f3H|,O!fP[gW0$'kn^,7tvX-Y3-/6VEO3bD@B1UUj@m4eO|?LQ.|@o9W2psU.uo8v DJR#91ti6n`~A~90BI $&`#Y&p0&-)0x4c]NEJDF&v2I!'#rGZS,qK!3<TeN((oq2SKk#.eIVAU5XAIGgQ|+%[4h@#GF50u@_pWq72NEs5USoji Q1]-%L`](M/EPHqjee,# /Oj%?OEm97r#O C|T?z@#J%r+,FV0V1wS1_",
    "Hwp4GH1Q,3Xyf?vxe+>fZ09OYzoHDDw'4N6>o4C[[T]7J]xj_6@hR0HAiIvxGK(7Yy6>gX,mJuw.C(|<ANYY8h/vRL+FT.JA2d9q/*wqL0vpT9*[E3#TE@r)Y^1L$t>9R(oHBdm&cIg>U5iBY3WCK$Yl)J!!)iT6En(n/3@0ay_l-v3'T8f-A[ilYuD`TBWCD=CiRN?RUok7MD9?gUVF[+9,E!1vYW QDk+pnf@~vPgj4YfzOCqG*%Q#4`Il<CC&:[)1rYS$2FH[R4jt$$FB%k-wr4rv7<B`9zEp6Yu`JV$%%ZSKJD)qo4tqG2SO@3(nI=Mo%ee8n0`z'NA7H~v'#Io~a@';@tw3pE.j'CkiWC|DmX+L5aiG!MfyNy@:6:ny|:`x61Ei@ug!;]T6GEEfqOhhm9uL'ZuZU(;r14RJODzP.DbEr3B]1i_$e.]<,V&mZ9.8<bFKV~4A0IFvmQ'ut]UzA%@v#%WI",
    "]]u<c,[m4Kd7l3ATd!o)_qp7BU7e,7L*/FUa<?-tTdv78~3wSVE@2-J[%C#b.ZH0s?C&m_XzG?ZYmU6G_csh!smkpgqhs]qi+9`fsroE>ljT`O>~)>]?wG8~N7DK=rm87zE^GiK-Pv%g<K/GBy1.>.|>J$7.A'i*#0qpaV)!.?7dN:a&+e<IFY+TnXN!6&mr2HDTO$+~.jx07/2_+VB9MUz8A=#kJCRN8b@[H S8XdM6:v6Mdtq6)XXh#rM^X~AG#W$NW/lP0#=Kq%lr;X]P='(wnC&sb_c&7W#'<!/6On'fP4j/J$gotkf@@7/r=IXN<V[|._Hjr#NaeESZChNF;>8WK'tR/dZNq':34H|0q4zAzctB(()E1t?_(7vK2bRfTeU+Th>ndo;eS>o'$$9NYl5a0l39a r1IeWGJ3A3y=L*Vfd65fmG,?Z!v;32vnq4rczx%z19u`@t|,=%jhH!;ls/oM/DTI25",
    "$^aVj^rL#`l@rruG|E'ulEe!f3c6L#k=yiYB@z<Cyi7L6G1*L1)P,oZy(Yk1mzPyYWd/rM!so%<#N .AX/ H0NB]zn8`8hbJ>bU*y=?w+2&5csgeg(s3Mh&mH5@3#aEu+2mYhP#yaEkZc!zt883s!o:|B6p$KM9`0.W(98WQd_^K0PcKK[xG-4_P<vTt<KTW[cI6&qSn@)&xd%k||mM0:k.+2cab!'d=M-:>FG60w)RRhr-% !:COg8x@Bc%f2-SdY&t!,>m7eELs^_$<-IutG`RMN'JP/FAnQx%>uHMynu+ECige87gRkF906MIe-5R9GCHn1_(kk^19 $K.A3ArTzd@*N]ou@Og>A) /uoCpL3i(MlwbcV 1CIb<$5RF$mriLUWfx`t#TwZm$`:* EguQA!U#tf;j,y|t#*~%ezNXWR@;[5AvKV/)X.ykXwO6fw/AYor^P(S4*?Lpc,N8bxK0g,pmi65Tw",
    "RSQKM*r!$4l,Bworx$LpALV]F+Dg04>H_mIEajflBp /WFD8r%j$UT!>nLEPpa(e4@A)Vx+Q(FE`t+37,he~vCMfs`q|(Od|r`+~b.HZdSP'o3*Kax=:n/4GT5H%y j||z7HT0?p[22:f:0M9'hHw!aQ'yg(KES-um;m1*Llc(p7+l*3Gjz^<R4^4+[1d~&/r2sYir^oIS2F2!nkPeZw>M,8&)SA^gYsJdH14m_@wvk!eN3s%5!DS<YfML^L 9YgM> m3diHQbIg2RVeBXMc!2yFdewD++$ETQ8kEp#3Ugm&QH%HWP;`Yjt_oGBetCB7iR!&76rxP50uK`cc|zbfowPqx8pgJ^A9TX&Y>mf)q2Ert,iGCX-$f`%8=aXF +/?a`?I<vmJ4r0kUj#YH[*(MAbo`'M f ebPVL-D9STr9I-9KRL8x%NsMbk1yO0m64;SWb5Kf$2,tir*'O*uN?(S%7)(6uy$=1P",
    "G|@PN]0?C(&-MO0qH-Q:YxJk8*sfFi'O1]MF|EOl ihh(Jq5C[kyc`zhS2m#R^XzxURTi7e%U5p.EAOr;d7|O$F5*61O7f%j5T.2|cL[Ry/N#;1D(YsB+5-qvaAeUpa/f.cpqNBg62q&pP9? o-y42X<g@[$x,BQgt:58U89&9#Y_!!ttS?aGYKJ=8(_&XKB|CWXpp40f~j2/<h5PO2EEkP%lfvpGz#qv:,=Pas.38$./5<q1QSA,r%eGBRMM)&Ey>'(6|; d3J#U%:VtIxdfF4|`y!%tL'U_4rlJK09o)QR?4zl&lzJa@!zob0byCj?I:Ai8=q0<T:ohlrh(/9?(eagWp.d05Uo5Xg~8wcSmHP7;l>y#x49-2ei#`Ovwaj_$/5;n8nHjMWX,,+sA]K._co~9MN8)n|.sj;ArZ7wev0ckAo&ek@q5 -eD=&a3#'f./s#%L$=-Iru5ctGDTdIH/_O#SoDhnde",
    "5:|dW.eK7L7|8EF7,[eLvLqqSB<sVmwoUFh$lmNWXB#Eeksb<4T <Msk4Z16xM[S]qF9+b.&K%DDW;Rdhkn%Vmh(*S#-!-h!qb.LTeHXE9/dpM=%:YEtoSCE4quD[yn+/#7#fj)=NL^bM<.QZvx]P(i0CZ.SaVc>)O&-9Zd$^n-gFvODl?HBFrWAg5G#6~>jyk8[mKcu_;9B./V6<(+vmZfKi8rVefD/&R*ZiAiecf>4WDE,LBblhELcU;NFqkMzX7;n3ThYQDTS;Xz|,Duq=><s*4=Dt3;3_y[KavW#`z'uISAC)sV5.&_xWe_xxu,5&NI*fo0rGo<4N Im1xUST9efOvyR-0AZXtq@pguxEb,_h9SqWzBr,^P:pe'VP=-hV1y2mcbc26xzs[vazDCrah$s=@vwc!V^T%0Wv-u.eM1m:qOkI$O=e2nSeU==$PEweJ'_g=9$:s[4!04M!>8uQ!6E oEf$J*0",
    "m*9~4GhjcO-WJQ=g-(w6-)#%Qk*efRUnyKTelIK3,p'enzokOEq$p#gS^LXk$TJM)0',yU/<|WnV0nOFKa+L::*HvH&gZXVy,_htkR:0Il_bV/yf`aEfMy0iJ#SI.@+/M:xtLLbYL,*_dK3!S0=M-t+Xu7(YVCZqpjaM[JUEqo/je**#MVnSYoe6_N##XgJBvLT`QL#=KmQE?t_ZGn,:eIgK! _AC-n5*SKBT6=5(J8GhDKn_6l$`t<A[dr)Wz(bc@XwK-Si3fGvK!B[3)^ed0)@e%)*XN)9f8=`i[_TkwZwER>tym;pP[l2hm7 v@c`i2j5^sJ1zYQz9]fC(8Lk]Prw 7_2gvSAWlH)a^<x(?t0y9Zqu_m?jk:qR ak8YZMQ=DU@!lZ*U,,[o#i%B)f(k=Fgf*QG~b!nCWALx#jUv60_*OQgpj|x!@0D 5LH3|8*(J$pkNj`[|R'|]kXIzm@x)|z$U*)Sm2",
    "A')6,,yOSk?Xono.,Fz)@%vx`>-a+EVcl'H<UFpn`EEdiGUm2V_|;@daSXp?!,@y^,)[_:=%&UM4Iw@'KI760XNA5<.Bx'HSWOVof9!H-9k ah>>TCF#HIla)^KJF3 Gs`ZXQZ|V0Lov*!>@l[''xNiR4e@s@dCr9a#=Wof3dpY<-:STl_KYYvcK5%S YY(eJwibJ/3I9<_qBLZ@xb<#.PB.2#(PLrUMM0D>yGgEmMPc&%,gnv).;Pn@@I8p6HEXo&fQl$UY<gN!u8Kfs#jbrdsH&<M|/rrk%.5HKJmw>&XFa#v#q.Jb[Lxp`r,!$wpqiae%-SJC]tlD2$DR 2@FD cNw_51>65*@%aHT4A6tT;yw]vP=tF0tVksAd^dE76;U?LblLQD=4lp`vh6jB*?=iKda=R0Y9i<SBMVuM>tZ1CRbI:e&Ly ,AHx`r&Z)$41BkP:'|7pU.OEy]@tCf?R-0*t<1[4g7oO",
    "0y>tZ/7Q(?dr)eTZta2!Xym/unuXZyEBT>bKw3$Zdl<9%w]H5BG5mz-E&*qc:ag=+s79](?O&nJpoVTsWp)]R1K*reQr:*H0abmA$YsKXTo5y&)X)`E?R:`uZoDUl+t6`=l<=Cj>b(Uc<N!?BU0-GyW8*Nb0r9klYdX><a8l]bufv~.mraT9n+1[,):x)0[j<)f<[`rJp/v_qEWm.g[Th(s[kzaMFP%B@XoMd]Gr%Ba.Y3E3i<Tm]#Kqy C`F&9/vSEijN)B,A?)_*K;ClCB`$`,$M]G&8Padf%he4rS``j8:[fJv`-a<LIuYWx[J8!FB q-31XC>C0a+JZYX3Ra|i3A_~RsshnaEy %]~dih^J_wTq4b4<6R:s zZ&*NnP/_G0-dGPU[;[<x_7:/.%Wj+VwX4:@Ju*sHBQsq`c+q;^zJVHwtEPQ` N0=z`9u Rq>uKAVB0qeW@*0ZO2o5]5'C?9UM:u|eq+",
    "<F+q>EJ]]A-?@&0d:hWh9>hw%o](/S]4!Q9+b/$9&vWAv_5i4%)s<Y44Y*d_4Tb&xWWXr?lKo#MZ;2oCbprAcTozkwKC5L.2C^Vvm]]Q/mzWf5V^VIM&9SW=6x4n:27:0juW@vrs:naq(K HA90s=NM-cR4CSk.:LXe',0.$&0x^.0MZ|?!`-u;.#U!E ?UZH:`Qfh't<0U'jsT,u[jwkx_meaJh^aAD+_w/!as r]k~%z7lxcgK44ZtuWmN!(^<pYUaIhWM3SFOK5U~Yy-$9ovPm6OtB5K|DU3$iteE15Bd#hoPj~z3LZsSYT|pjuw1,s|=|c @R!ZBc@+aj*`95I7c97Z7t@+reV3Ly#PkRkr F_;B.mLa6]Qyq[>#HP1j3/1~:KOWYKO9Rz!hN*0Qk3s&t,cppeP@iHU65>Xlfe8Xd-#Kb^`6(p99pfzLp#@h,'.EQ'Qw*esZ=XOQ+(Z3En :l3LI$]:,",
    "U#9o:9zw>U1fitDzw6f<AP4->gcv2<s' wUgq9jF3(;cx8Ee@K<d<0`!>e+lXV|@SNR~i!ke4MNTNMayUQ^,5,%R_71;;.0[xHP /L>k+n_VkkMV+pm!__x36:@v2sYgwOIgWrt[[iXOJ;::5sNy.Xy#mQ0OW91`DW51ih:gm^El5K3H<LG!a$(k&?wUutxGlmVdj_W$W1!Gce'f6N)62SQ:CM!Z:Kuz?H&AC@)!0p!DL;Su[sR1Q[>v^G4[GvJZm6_906kS!*HF%lqh1]A|7sm&Gjo6Zf)$VY'HF0fwrJ`c2F<S1._kW61VJ6_P^_a]lteIoFCZ36&+nu%;gF#]Jp/MS|a7)srJSG6.|=(?rLe(zq;g.,;`9)D<t:lrT m<cQFP$&D0d`6wXz^tQnWeh.;'IREW-|x@k*FcJJFh$`s3QMLrCe%!BgbN?O`';+&pK&E91.uT,P&8,f,n'10  DO.v_rR;jw#",
    "lFKmzuWsNqJ=v1(C*#>pM8Oy|t 5*9IkQMD)M!=z`~fx511T<[@<bs&Xfx1_pn#r)VAB)q8K2EP;PPQ?&E(iQ[x5bO_;S%J77tmy|_EnKrzPmgX'K[):B)z) Yq^PR,O-UAT@/]IB_mZ5[>'5!`An9$K>OMX2LGx]GHZotI*<(XAQ`W|KD(ZNJ[vB`_Kx&z->lg>>9XJL=9akF<0EVk7,>mi`z7d?n(Cr48_5!w m$)8JgeE?*^NO!8]sUsA0J7DI#21%v(Q:mD/.JD0VnJ#5+Ikc/x`p[ECl|bQkPA-i.rulVkMPPz:d]<lYHlBpYD6KU: kWB9Vg!9Pl]Th/oI)Xfbx_Br;t4L$f Z%mb6c15/+|#yL*G7Qay*A;ST RlScc]|F,d_:lw[>,l6C@q|B>FuGP!v/*:>[_+Mr2HjP~rBAFX03T@[<p&v0n*jOAO2Yho_.+aqXEuzs(_(ox2uqM-qc2fRkaS0",
    "'syA9-H_@)@0e!0uCOpeZ[`H($ZGv%l;XVKcfJ[vC[jc#7xgY8/0h AL4Yq8`C,kMcSYKThY&E,w:gP~FU8sj[wPFq42wqY7xr!+IgPdP`O`R/dlk;/8J)S] <CXv6@*(a-Blu+KC857Br7sx<QnT!TKL&W$It;h4@T!UlU<GK9/4Um>cwEP5g40e>GVTw6$BE=*i0h0Hu8h_*)'88#doHbN8C/ir_nE3lZj3ERrO>2uC/c5fs6/3^Rg6dgU:fG& G+?*|oA3IS&7N289H=;N.i|R]N)AYt1;1@JMsN,Y5x5ancN`qzCj%u(o=n?PG<VPIYgD)DLWEBg2WL ;Q7R(qwkS:F+JI_;5[ZY_0k$yEz+|[_d<m^@%/Ty,_^dg+tap`s<ka70kA&`(aS`y/Io]+a8^7h16]B7F^IVm2%|<)+F(=I 7Bf[LQA>KcGweEJBBD2(PIegq(z|5N'l?W*>%<|bJf-2nPE^",
    "fI5skqrJXvpV2SPYfp3JvE,B;Wt(y~]Y>F+q?y>[6*j3|]qk fOh])f6Fs_HLXl7K:f:6T82HS*2RGBn14_gwJSDDFR2YNzuNadr&Pr`C]Rd[:6Q#$eF`c'OD^bc=CMMn#`v<N_HxY&bRr=j#Ga9m(S|!^RVMBZUxh +il7uDP%E'=0_tD7R U*?D)ly|C;JXHV,ARDg&9S8xh|;K|906W]qjl`&myRwKC`lt<FykIxP.E$aET#Rf[a=81XN.2PXQv'=Q&I:a8SQ!|PNN#(3ZxdBOVq'w0o#L)w[`#hAm4X~CEHhlI[4TrOxqP@(w78En|b3dU0hk@,7LS7YmE`Un;YUVMm>Vf,@C.?rem-=O61?M>&HrxA*VX|E&`Qk?;j0SNwNa*im:A*TQHU]1tMCQ=f6Z]MHd.qdk]5sa#A? Qx`l'AOa)zf_S&,&K;V?b*`@_uh6IKLc&'jlOTt$z'zDSduBl!:gs98",
    " iUDr'8E=+6|w7&s4J&e*yC0Y6UeTj9S$`CtLuo5*^@C,B/`?.o=7J[kS(sLozhN-A*.Oqns!aeUH8qGsvo;ZLt'ut?T-ZzK|4YX35`Q&0GfwYrBQ.K(.MX&T~tQA#Jb_W8tzPA%c)zN CiKZ;mYa_K+qnAq?yS:GPzK@Ds/5(,Uo.?bUk5#A%AvDxtuBU;p$h<Ls:Mp0R:n)qTP^bZ`&$fg/`F<mJ-lDe8 zy!gkA0^DrF*$BAdgZdKgCD:JRws]w[K?&5(>Lw%m16NWUSJh=iy5m%bIb;|7aeul?F4+bt?m'% J0&^BTWvZs^:somkN0=;&35ZNpgD=gn]YyuWbUUsxh'D1toBS,|_x(n!khHUDOBLZa8cHo_j==GEzrsJ9ZbC.E/xZcPu_WKO=Hi6@f>s:=/]q<JyV7`S)DspRE $@-zx@y9iJRW&mYrR78&+>fbS^P#m$BBBJ$4Y>:HTE8SzAl]N,`7n",
    ">>m4[&Hsrzym2##mYKNe#rJ2rQ1/p+zegA?r;(C,.P,QNh_y)L*tNH]LnZFsz+xIsocT-+wPo5AaQGkf3X>=?z[W8dD`VZ>LG6`SK<F:;d TduRr|T1K1OMKh^!1eRm|D0_(e2?$[p`&vRzt|'T!:OBJOcTUU(aa_ro7nVMa?LJnVt^EiG=S77^<Uy0z?f)wF0q0S]^r_qQmHezO-*`2qf,jEuZ[JiA=*e=v>(X!tA1S%9.y*KC/4x=IM2t0eR61tY3u$u,,yd= D*ie8$4Na;cY7Z*J2`tv&<->KKI$Z0VLKiz?raTwIaZVAV!#6H:CET@ $^kB5Ab?UXZ<fo8lhXx(A?&PAMVI`%,#AOIv#pSvd1!DU.!A|%uXN:vnE~JQ@.n&p8rA@a3]TF$Y|Z 74fFlp>Z[:hot_O/D.pU+]@1'g[YEd9C(VbMUntDaq[-ftQI>=QhABCa8&V('Z+oVXQu'Ae^'VtOw",
    "w*2mk7J5(/U[W8aEpK:4u~?MBLn^$vH5Ewv%pB]?zc[(y|_zA]*btp.q=u]G#q|m[_L;2KD:pULFn2AK@~D7okE~fA2ubw=Qdi#W_[vzv[,,T4QvR;4lsMu8t)KeH<2x1V?:to.!^Vld!m]A7E7uJC5YY3UbdcSd- q(/%oteR1F=2+NeC=eOQ6>yK%n&hc F-0Azyhxre*.u xjoYc<Ola8X$OR)ejc6s94_vohu]meoN^c7aFdGoXIoU,XF==[CE8ZzP^dbA!i#p?1swAC,yl;=0@y'T%(lLudJ)%roKd'^C?8HRb6t12LixnKy6h|H)nqv?0Iz_<Zd<I2m!q1ZEQhanL[oV$J0K(%&6wQh ;?Okw@%!0bvtk7v-K;z5XNsyI> 0-==2la#L[-;&Py<Xt-`*sLXi.`]Y%amy1^pWVjvL*nlx6AM]Ba4)FH wV~J*?hF?b>a/zb~!hkWTmtn;d4&aP5m<`T",
    "wP;:$'YkSSoV[`8N.pUF9F(`6+,Iw;EDuvbk`j`wVXl04X[>^MU]c]mPr<1GbiI_jlO9syO%wdP*E#Xvh9!g(1YU8-&QUjq<PS8gsR/?m[-8F6u5D]=3Je=7kS<6w[c)X)Mw&Wv)3Nh76IM4uL>HW~%w&))pH[G@%@;)tyWejy`YO$f %n26d^Xd;;4N!BR??X&Y'umFh-fl-j3fu?r#Vm)(iX(N7@^+z,PH'@+~^PZ?2FoIk 7H4LwrtjBAKQ[*slDc'n3*kP/sWt r&wY)hiKJ<;m:P0WtW8uA_^t> N<dJ'BS(^/+FpS)iX[wufoWYsJzNFclBCq:=Vfpd]`9z)_q,up _Q 5 NVMNW=+'pRw8EQiyEGM<wA_xa||!Is0I7+kV/|D[iK-FcvAcU9wKe7b&Ff_ObBzVmVP,w7%%X8_IPzB'*l07tAx:*V%irTGYmJ4UhDCIPpwX<8jiH[_Gc:.^m?2fn95",
    " -3=7!Z=F,hEjvXy )XGI*MjO% HzzOio2Y:_^sqd=7sbSbWZEy`RNqF8Nl3shZ=F^BBa?2h!`gxG/S8Dh,K_1][$JB;x3 >o!iuhOJ5EGq6=3IH?[vzDl:ho8]Rr:n!ZlYO_.E2R(C5,bnTx,N&vbp$@*:=qV_cRJ%U_$)^nxGK>HB-nXDCtt8K]9Y|y eoG59L1Kh;F^F~=]GR*z/s^yA!<Dq~)zQ&Sy4Rt3M&TLiomT9|eyzR[Sy+LQq%4R5bTcEBK_Tu!p37$wj`VA4&%LAmK!MYMc2MHR5:tv $a*q[sQ-3/yRdKy.'kTqa|[1vf%$L<YWK<g_-|@yv2mq9hE:ni0n)4(/ 7g%Cvc3Z-:gH_-F,p*@>: 7l3z:v [Y-o;Z4hyOA`$F8QE|:! N>ae:pD]zi*~UhmIT!59jdfm7lfFBi;#yH=6%<=EQ27<XAy%Fx#itel@TcnFy=j*U*$)=hw7:zmUq8",
    "[L:y6nZJa8nyVJX !Od6A>|X8Lrz=?W1un6b3OQ0-Ae]=UmV<Pe#|lx>e23+X>+#Y5LJ:%1yF./~5thLe4 :7:<.BNB.z8%;=s  sXgASm/Dd!0Xs+O+C8g<&E;35G8pRU2gK@Q`$1'oJhR=]vHP_,!=x?NVelWUXL02 Sk)]~fuH#J 9vVH7`Y:fQF]Z^?=]LFT%gFJ;YrsD1 .YW9xD_KTY%^#Spv1gauu)%5ph.J0`X.HEBxyAR)50:@rZ;M47zYsnvu0B0CY he=RR(j;fN=+6[j>Gmzx;RD^1Hs2q<Lua]t-q,a+8k8//:NGZLK_-x.chai672KM)X%?5[QzUg- 1r`GuF!O[=c:W2jvER.:f-`%t>W&tS^xX@D`mqYqf12!i7t?8@WIf#Q3hvLB;4LfB#POQjVCqQk!K!9C=k@Wdg:p+Bm<#2~h6ukG/TwDCG1%(+-ib8]Z^8KAy.Dgo@TFyW01rEu",
    "#P`&aJW`ze,hxl+>/Ysv^ua9^%md9lQnfXb$nM1v+U@z7/-1t]aoPljMT$b_nR;TpQ90t^&r:t*O)w4O1#@JsW:3MxD.FvNB?vp7cgg>|iYYSWV0&8ZvL=@2IDg:cilh6mxx[Jis.,]D>rToJ#iMKX,S/Nbp+D|SIQy]]k+;]0uXwg>hI0T96n|`P-7(dMfO#yCBCR85 %b+SnO,:&/E7p];<FF67L3!]_5-sUi6tvx[&!AO1IpsORePwyH?M'K|Ckz,s%f&YJ_8dl/Yt[&_%.e?ja#>?)E^OJAYWEK)gTRM=C/Qdz(-'kj|A;VF`Bcq+^Dd`]'lS|N1'oLcG7A*Z[)Czf)NjzZbj61t$o0FTEfRvWP)r-P=rh-jrF[93JREVvw* ;xrs]r/<]Qe/l@Uy8t9,HMd=Yiwit7/dY-Qc?%g6@0IMMqTwG%_OEFJr7@.xw+<syZ-m|h !?,W8?ilT@@gaGc1_UWn",
    "_UMtKfX ``](si@;S&;<ulS)1KXj5j?=&xFUsKo=X NAwu+1y#E>pg'4<C*U<J+Db*zUV!_~[yLu<WR/gh:#(Uu$sEkkhnBCz@Wrd yIQcS2ap9sI /nmFR6LjlCNHA<uP5I2o ,UmQ`k:R;nwz'-_U?)?QgXZ<TNM:`r/uL[7?/jtvB ld~emGv';oxz`0v1vvdmTzPmm2<7'gf]`cNt`u Oshmxs_a_zYn|:qOQ+,~#+;6J9QA<:%&Bt-j/$bZQp[%|xtT7:OZ,N@nP4/^:R>:(vdR*#F=La/'8yyNdh!opOB:-6H6?gW!-7JF(W+:3h8lyaW*MUp;4]ZS1ApRr.9RXd*U/Q^I`XU#4QV$Jz&7cPxnmYs]OY+xTHkA*aAC&>`_H@68CDE&@:!+trM>Ze[Zp;]Fa1$MhHgAfu?WZHthEx]5KUP)>vH8ZSh1[(['GKYmw)5/mUcJE;R 5)OgIATuY>7Eo;dn",
    "<[z&;$zJb`*@3?z49pp3v!Fg)_Ns`.&_NiNR(S$]Pq/Qct.r'P]/^<q00x_M=F#vgz5qoY<$o!Wn^J_6Lb0R|MU8?ebJ?~b&)i#0'7ZZrPBkaTF[XvMf|Ev2'pTy3z]z=PfKERJIs+Mqd9S8Q=tHn[_&;Ed?sSskOVCpmCG77(;D7DqQa~aU8Ibq&Q0*!sFYd9lnl/2 HC9PUOSvU4Bxt,N@if$N|W48xHe/1_<|4NRZ#vPZyl]8PEK2vOe24YsI>gq8Ufp,sA&hcz;<mN?pF'uAqf9~Id|D! E64DH?u>$W+o2yk$;=,OOb16,G-`) _Z=~jX;p,]r)3yWO8@-Xb#!mEQH%LEN$1numg*tTH1$8>tgJfy$rg[k>TWh's8|D2SpGhw=BI5K?.3b|_l9jG6a`z*zF.l-YDz't+?h[SY-WnpzL&f$a=R$'zj^ /&1R4gr<iqInj1Nio=U,5:me|y9!A4/9oM?t",
    "2;GhJi#d*s/*Q=bfCkN8BuO9/;|+nJC:es&Bo:@J#IL:Ei6gm@RId<]2.;Se-AC/4o5H8'AQ>o6Q(&aPf.#=3s 3nW|:Mz_PMu|@qER&>`!:R>iLD#u8^k@+S'?>@L$h=YdAre?c(4o^lI6GFho)10=bGlw1A>%C]DP5gn;b`QNf&IOTP&ITua*_ ]s|H!T?&Ov)Ui#> 9W>>->b6D:B7QH|7kl|*V653tfH)(!)2^N#V:@LcV,8s!y;N9u<L@<!J(oXH@,Cd~4#+Xe(xsL!8I/OUI`j;K9%t]D,'^9!V]@c6(|`^UgO)a+1XHP`g2vJcK^0)6hhN_^[[T(eo#:;ls2F#-EB_mG;e^Q^o`T!?KUGBzv*QvVc0a8HQ`HHpTunDX7&^N-8i&yL?OTj&Yi| uZ|s.z#xslS$)@.L|&n=2sNfkt@n&0u:Rw|MhQK|Cp@Tq@Phr|=o9KA`f`gGX&hQBCSh]fy<9=m",
    " :jcg3,aSs`9Zn)5mNMlH6'0*:kh0D,G5p0oyj*O,XbR1cLQ4x^=BlEsX+@Rjd-.aes;OY0c s^(MzaZvx-YuzGtZ>2QhJj:*%6P?D3$B1s@;R34W#wpI'Yr6C-j^jlm*YNp@;AVEug_T[KXx#|O3N8@$8dJxQ&xgMk581x*N8$`2yG,M@3oem#[g`JcSVyc aLhXi#6&lcuP=]g(?3w|<FH`w,CZ+X2Cx11v$'<AMW~0:>)J[^@e^jshK&KrDA8M!ceaAbBG>L|lq<XetMQdALLX>:qgGF>-g&#e9 EdC:tky32,R#2[MoTb0Y- ]nVun[~NJm9W'sxr2B>G>j>kz4u;1g <2@.]<W_?&x:H/yDa-dbe[NC3MU,fSWlWx_&:T><DLA0L9DQ.CW[TJ5mXB4^B;cM*WG1u#Z*5AI'uug%8vy$QPV/1#pp@WG[n16Q >(6d;xefJuR';qKH`<,ftO BH[D%j%A",
    "Y%g WA9tV5B4 LgNnur;4#%VbdJ!1;+Uapscj$;nt0K0q^?hn83wbcHQ!=Qe**xBz8O:6obvYTk,.39WZ~_]?4;q,?ab,PftuxW5k`0M|#H)shRTR~VRsqh8|@CW8(7KMF27>Yd ;U mq2nBBkVrQSi~=g*AtdCVdgjyps<?qj2NO4nxN=On]-uD;>XWmw4'VUte]!f%Qd^Jywg2 W/I3ntNn+[s90+*:0i@GD+6#m0l.QOA=/Q~?U3+EQ6Y@U0fkB23)N,Lo)9mIXXcZXXAj1|btar/3Mm!LFG6MBAqz8d6cnVfp=Ge/Yw@gMb:SuvJ$;0jZtP~mmhm'oLn-l1o9P[j#0T[]o<**-x&G+A:,bw7|+.Jv6xy tle!>W|33!QJ@)r'QUcrKYrk t:-?p*In=H Y3ydwTtK[@!#@!?rCJ.5U6HT.KL)D]wp/)5IG,(3ojYix.>&LtrXKA=?cvLz28Tc7);PL.7",
    "U:;!=2e[pk)fVe o!?5f9tDNAohyK#u#'A]2m0C>j2]^Cu(Z^!z$3QU.&&?6f6.ntKl+)*]*?X?>F3ha/-w&MVzSO:56q,xo0ps;Km5OTD'7Y6G+3wiL0iiMlRXWQ/L@Q%,+#iT3>Rb^B@O_iJwRpcAXni81h(m$RgCau>4d>Bfe:)Gg278N>J.XR|1N'xZ Xc=yys7GEDBORDq8Lp&77,b68zqx?^zBx~3x6u(tFV-Weii36uBv! WJ%`x?Pgyq.^iLjO=gQ3h<c#[.60S:4Ua&go@/UNm$7%2<YE/JQH7hV0rRp&c@a)_SEZLvBh)@G6m5f;vNTe`5ag^lKoF~)j;cR?<VBPu|MlIzj.[_-fjN:greP;Su%?4! af^$/[j[5+.7(];2#VV$gkyZlD#jI$[_K0U!9;j q,2vIypN@m#(Y^%pYeHK,s>QN6Z6(1hJ5<+iiXjrG+O5W4-Dg*hBLd( swa%#)o",
    ";tfd4%Mfh=Pa!=NvTA'0a/>jJ|Pbz`VpN%*Hnd;:c=$LgA<&Gk[BCH2dcC`gy~tOvVS.rHxxpcZQlxCLposVs|forpNqHN$3Ny7OV=OZ9^ ^(!`8OzORTrDe;+kn*49y+YwPSkHq1!,2?]$E'Cm>881*?OYnSFHbxUzjB|<jwH2Hfs_1*jt~:55*Q|)Tx3ZX'HTHRP9/$jf%LMVGgr01KUv'O%P>sSW;:UvSl_yfn+LcapT%h% vpFeP_g#]Vy+,,Y14#=4L!KC!Jy`^NDY!E-_8U&fQdF-i@w$eiBfxr$iKvNgx4$IGg!cYI#H@W4Y#7@=bsjcTUr&qr:'@<;aDdlb@PfH(N4xS`okoyf(t9z3Y/56r;5;aV~L)lGq-c2AFR`cKksiL6DQxVgEDp_7XzNM'=s_1'iK6Xpi|R*zJe3,up7TyWF9.x:+#cwFhfHW%G/!viWz^[!5*oq/EP!bB|o&3VQ<B9-YO",
    "/rCA1Sxv!i,jjXK;Li$d?QN6S3Kb*eJG,]O>^tP|?#^25[@lvK g<?uS$To|SkOUJD*zCG% r.jjLxm'CX*26/Aem.d8=W(='wMZkbN##J.MR4:Yd?Xt= rF'Hu>h*r2D)H~1(]ik s1evPh<>T[gHDKpKvBK*O#wx))`!k0:$OBcVB_/=tkJ/^q#?fkvtq/+ilu+bgLyNixd7T,F8'HW;I'n0Z~XO4>mwGp&EM>>@m3 t'hutuy9,gyUZu$15O'_A`qV|BVlFrpgcJUBN.YU5Fiko)d-5p.Ha*|pf1!tg2jt`F-+?N@R1o$LhMIrj?IsEkh(P5i1$y'LvhhO]vGB$]zu~bX|Drn=pL8nJS%0|<ZTmdo#^UXzHq*O'Xib PE<(qi*QBGHge^8@&;e3*dQ!e50x&3tv.>5t2 e(_=r]Z]lJ-o !H&LEfXIu>?0-)J 7]xg(<.10jv>PK0&duWv:FztAdhZ$pI",
    "o CcjS|.+ZS?#>y(rw1CMtv7hy7/faCcbj4)fdkF3(ym9Yym<!_OCKj*.+2?-V!V?Jg9pIia][Mx.7ysYoANU!S9/6q8rT)B 7vs)0:1qo+|1@fX4mFbC6KsdxqMi_`!8pEzLjIEH&llth9xcxY,7faM<1XYZMHHHDK/_+NGFZ8Wv-W6'Bfg4ex(T4)PS@S9%N( Jc35KF#,+UAeaPAl_dNiz;RC|`LDn-?Rnv*vLpL5/1_XjgDsRGhc?~TKGjsQ|zpYpd^A*p6RPOz$VZ|/'+;s@E!9iJJ[J.)-Kdd:`ab^3ajt(pJa+hWiF<gHK/ik*P5,jjf.l:2AbEL.<DJ5`zHOY_pS7:%Fy*x_J~q-wg#`[w! DRUKPL|?kHgCg~Mk[mBsJU&+zBAC&YI_oml+|j@e7Vm8u/D-D`tj%oEvQ1kO.PIv[9I#W:hK8.^H=4SoO,R2HO`@[82CWNiT@1Gx[/4q)aJn@6Cs",
    "'OcE0`6h<bh(`GbT<,6gTIsRt$.=G0eiSOayZt Nmp@P Zlm_@.apR!lgP:ay;>M;iL#zB/uX>U0%GAu;FpY+#6eN%C'eOHVDx7|YLe%v(=BHw;nGopa3B2hnoj|1eToJ%baoschn8l9T)`ZFRr/p@hIzf7mFG&gd9+DtIHIu`.);hI;bx|9q[b7H;Y9<;0+d;$:9-<;tuPZNxWUDLS4esbj2(+.R+&lEavzVB;3=n`dhGgRrH$zg$Lc2hC57iKGBH^O%4zxh4w>F_'BP45JcN.`+bT??.^!dhsdMPajxEKf++m(*3+kiy1F/;O9a4ZH:UD;;Rds?cFG9NF)+6OnFyb7zcrWrG64'S,r|e7z@P6>r1kV4*=agtw|LV[]IKa)I+yc0yT'qu#WuG8&mHd|bjS5uzYuU.vbizam#8baZxbw2QLGl|o8#<WX.9^8GEjdkT' E;Pgyj:[?=1>`uYk^=,@BmhZ7|qG",
    ",t!nWyu|wTE>T Brq)IsD?exYjoeGSQW>|=2`~Q=2wkx[/Y.)h_!<5 m_1[z/)[DcvygJGPW/g_,=c!(1c$'DBJ9lgd~aY6P*sg;88.4g%&Fh?oL;W-YN#eeE WG7t/Z4]K-E/LY^#i!RydJcv`p_bO&OeV` Oi;GDBpI4@W1:7r.GoDA%qZ&$TN_Pv:ts2q[_|y*nw8FIgDsAF[h&gKC.*0JjDT!-&j.tIcD0s8%qLr=Mc3/qp|-bU-WdT+T j^NVTYc8l3N#R*x FqqDv#a;Mv-;iJ5H9k>VfrgKGaL@eq%>pTqBd]K9?::Oc+7 dJbR^Jx$Kh?[RMnv^.ctcph$0)Dv>gta3C&|BAJgiU8GGh.S9L^t^&2CIR,b#mrOrd*<81CVi~=.:o*( ;1oJfY=^h& na#obwRyE2iBDw*ssYVz+AthHBb#a7CyHImv7crN?/'wj,[h%V:0IT@G.=kMcQUAo`E)X0",
    "vs0R#SLAsz10'DHlD3cRT!ywF8a]QV1EK)we'|87 c*d^%eH5IYtoB[_Sq]Jp#CMN1*>]6W+TpM5C@cYL8r:$8yyDR5&rsn,F>]&v5kE^sG_lJJ2`^ juL>N(F68:+z&x'an*?<MS<6''g,AuB1^K@x50.-HdTGy_[C+`(k`d?n7?)U.lZ)7<n#&E=S_JXkf/~:q*Z pLXnZ@MKTD.;LA9-J40UDm[A%Euc`U@/]eKb~bw,&SLf8Kh|k5tqWi=NLMiY9WoR<YgvB)nv6h:p<2:4).'O*3G)-8e^IjWjM[k0d=AnG`HSvNc;'m`%~UZNoZAC'oaArl|4O0fWkV(D7C@g7=(^>ygYD::(ou5JQL@Apy:4 PYvnCgg&Z/0N<9rKQbF-,uMr7I8<nDvmy4QCRsv7`'1D&iXiQ!ygMPC.R%gUuL9)8(Jsva9JG6Gbi^.X34F^-JS>S.W8xD`ZOeNjw8+L)9 4OMS6",
    "Szl0kVBO[01ZCYGP|BnEf|MaQ!6Ta^OQb~>,R!nD70V8^'BnLNSuge:h&bUhb,L@FLq.iLr8(6?;fQGj8>8/Ji6B:E_izk2a$-z_0)1.xo;=/kk;*ie@nZ;G#J0`E?ydm$MG$>bZ9(fLX>>ji i<M~%uBY^?6k#'n_?V $3MP ayPX-j*yzzH6DGMx5'7UaFm4J0|Z*6=vMhS*]K%d1EvC>eFDnr8O<w'3el;hJ0gXQL1!AS$et Ut(B@54C(mWPI<J[/lt_o#q>YLuvSN;Z!o]>!oT%0u#b>!20fo9fgv9WXqt(4BX.(~UO2*|smn'crK:NKJ+z$%'(ArmXK>M$k@*4fc!dGIXGjL`;cqi9Qj]KiZ;Wo5_Ntcj>hP9iV>HG?3P#qLb8^LY/A;d&P2u98O+JCivTtGvNC%X$V,v:Qrd!!.G5!/T^X-A=lZgh@nyeP@r Od>PZ=OK#@$Q.'DLc-7eT7wYg[0F",
    ",z1f7iY ^XjV7BT6I.JMtPwW;D.E^M<Lv?GV#[.R2ybn0'<FArfc4zgq]w&F2&K>XPv_Fz,V1`O6y=m7Vv<.KTDs,S5<U K_Iz%jIIj3!~jy$-z!t+y!c.[x$EI4Z2(D[kOT%8lR3:'2<G<koj5x`*_@0ZtxPh2?5S -b+HtofxmpoPBM8<'<9K4-?9`oC>]FREAxNp<!)(RR99qZ_v[Rqz|,pCQ1Q$1_(fZ8<g~Q;f?i[]v,e)=0LD_q (IUBZ1LkvY9,5mKx8~7:&M?;k2@j<'a*n(T1ncU^CA7_;[wPv_cLvHWY@h*#g*`4!]WOblduKPsJ98@nHTsNvMIXN6ci+R2wC%X2.(%NhqlV/Anb9a*1QI^0uj:nEj*zxkun^;9F)@K^dtmiy%b:|o;EsO&f@>KbXcG1<p#-GA26 b$M@4lpXw/syt8c,Lo1?a|m<]pZ>E0^bL|J`  M#1tm(MT=D'Y  k]sYD",
    "Q+A--MZCBPLIwpd~]oA>Lom*b3#WB.27W;tSU/WG@S2~Ipi)wE ddztc//VucSXC?pUu]_/6p]HK98'x=AJs3f*wx[N%UM1Uu!?aKVK>,'X-U*6Hm6MPdYBDl1NxM=@M.8>5EhBm@6T*VnM_3u4m)gHc>rU2m~(oNYHPezcMJA1[X+6x5zqAzd@-;~e/XdTO=+<[NCT0.|m38'S?WhIS#/3Rz=qp_cpmiWB<:.+:l%^!m rHuR$9R';_xPv[VUM'|bF7?X,5zrweK]a'eBtvv>yb*`G8_9Yyy,K10Fuy5v:v9]IuWm/j9oM[z$A|S( aiHfdy19c2;Qym-d%>F/WvV*(8t8ePw>hn&17I$Q&Euz=tqtn:Rg0.Er,MybR&T;wHbV]VrN#PY:Y-_&Dpkw8saLRK:Cg1dVSG1-)tNkkG`fgT&+jY6GZd/Pq-cZe>;lCz]i2Ms#p-7Q3:=c'N)+kn1s:w(O?oxvF",
    "+W6G*/6HF$K@bq2.zL`'m(N2'Osb84TGD~2FYQ+lD,0><FW<-3+Oc b>e+n$;6-V-,<zr^%R*%e@=!/3,Yo@9&!hU!3>My$;,q`W3TT+jW$*8UON(Xg3G_+X4y]dhqJOz~A~9h*Ajc)0E8ilUff[aZq9[L-ewIWlCRC|hB5>4-Pf)*|q2cs[XHy9jh=<Fk[=Es>ibBW^2Mnl7+z/|yio+TY-Y`Uh`NauuzVco_Pskn$UZ<jor=(nA]KL[D5/O?)ySi7ejR[m|Q 'I-#W3P( _ICn?dY[rGr[9AX+aS-HJr@MY3-k8jmQTB%/3Pxa9SPe)/|*E,nX]ab-Mrg@wyz#vdNg##U$A,OO.0G>eD$9yOe$utDlBrzt@Ng%x]:U9Kov<j/=[Y2d[;Y#SSKmh!JV2%uT9HyS6gajOYJ5iqVqin`DQ=O~X)w+D8ZJ_kN[dJXlr/i,Xx1kCiJRAaw~b%dgL'(2a87-.LVw",
    "[~qx'ZSLlZ6:h.Fwj&m6gJ48wZk~f3X@`KM#-0tPz8:S0=Gp3B65-$4xF#Z##94z1od+./1n+^L~XbNQ:L>.*~oH/!5XTcmuVxE@`CK2^l073I,/a2xOHDRyRY6br0xEoW9lcm)Wu.&kdDhQ- c+(#FrJ=skl]LctjoQK+TfAw1xyz'$1L#/-l;#%yiGH&odbFqqy_?wGcjcvyE^Mx`7i[kuSoD^ctX~1.128R^.ZByqgnwjs>+dO'[&Ity@z 45p,!Gv`r%-=Hd,&a;gqizoz*s-t (BA>-V|aBwIAnIxeUa`twCO#<FZGuE1RoOV].5mK@jeS|('/Ji2[aV?$;,% <OGQN+@^!Rw_e y,7:h;zll?fnrqa|j4c/-bX <+^$Q@iSl1Y+iC6U`>k.%s<k2Db8%<k62<|cO,i#55ky<Pd|z&wRY/e=1i&F6>N,Lp6xMOfip!-8==+Du69zV>d.Tbw#R%go|<B",
    "fkLm?, ~Rz@uK$@S/ Jor`%$OHAa;tVWxVxe+w.dc3L%81]fo8u/v3.*H@I Pu]7`RJ]@!RubH?kJyqKX+,[=WR,H%L~mqcq@rxBtg%=]I%n=!@oM=T4F!<5CF-5Ux.V(Lkx)5b>m%+G|Do'EH@wMWe]b~^8B!R|N=U2DCrz6'l8Mbg?[xs*wU!6agmp]#NM<a>'z)+[7a(YX:3cdM=zc7I!NMzLT_CX$1F.Oph%:aNRnj@(XUg.Od6ci*s[!r_slg |J;cT%#=1,[tg:(:rTS:c2;`O>ncdM(,>&*8N')NN!Sg;i:-~2Jm$wmUMbYEG;4jss!93<?r#7,-Y DR`s06ReLb&x~m%:U^kqz@tk$t;,p`ph7V>vali8 hN.0/^_7I%U>lX^Ff;XYOZX$O<3Wogy8*=C1p9 j8i(G5RBD`A$1Pd.(xsD9Q8jg>q!J$9^PJcHKI%'vi7+kUK|`7')-4eSbALh#Kw",
    ":ugzv0s6v^;3yD$CM3;Ez^5StxLC[@D*<%ajn;^ci)*=>.m#q@b_K@]1v1;pr);7b6EIJ9!.qP[czacT,=L*iN?25Oq3pZJ@V!@2iY2b!7N%Q?jP]BnZ:NZrcoRg]EMI-b<2F5-3XLN*S>se2*Y3-K*@#-(S6E#GYG2ga@-`^S&X(@|,KO%NL0l@+i? s_GL80LNG:!^X?-L`6K yzY&I$:eSY#433*Xghn<VV|yGdLyeT>Y2.##7b6O)YRAtxL%!ixvJRvx<sS-Xq@(F7-8Gm<Bdav!Yf3Am/yk5z*YGo=YB]7K[EDyuW*GSay]5w2[:qLMDH_2+@S`'X.NY-<fD-/wICWcD`u=#jPwI^b;T-8oYaGs`n#AhLCMilX?JY( <rc:%^*O/Iq9*iK]zVri)LhUI;Ct2aLFmg!B7oc*_YrZzlk>]yVrDvP:B[rYWP/|3--~c=|(|v#y)&[1q*k&-aU/'d+$x/!D",
    "ZO4Xjki[R_#X>!KI[M|jyWaATE,y )uGzk#:t TNm~=R?kx+cHKEVG^f+[=/Ltz6XdT]oBd;oR0gg*LAs#C<dN*_dMy+Tv(4TE dK9JSE7-?<,)mIHQlWd[2)k@:yD5iAJ;8>1cM9zYH-w[iWEBoh2:ov&_x)R,ElcX_|`5pShPPzea8_+9BznPY#~,R^zt>XtAR=MCS)4wiS6t;o|A)ERv>NL8OS@a!TUP+ zl0)(4WFJWxr?>tObNb[+<:P4X#lygTWq$ARX4CjTKPB.DEPl!7KBx#_[L)u;?YXTH1`snA?&KLe6<|*:6ef1)2:os9?K&oAhKr@E@)akOTxC6])=3S)eNT^kjA)p@U6/12Gh&=^^3i6t6JhZj%9?csyKGG+RQkmk8E#ZKonBXNmYjn7_L->js6g`HHk]=Exbs<7uPrV,Fq,[|S^]+fU`=Tku+$6cH>Mcqu&(08T~<pExD;x2^VIhC]eQN%",
    "ng,O'p>A);E$|uN/ItuUcXGs&.|`E#F 4&%0PdZsstYDYB2 gnbZHfHxTmTT2eyIz,rd*?_j?yHl4FsY3`Ga0,DCQ151>u;BXS<Sb&5SThUgdjbN>WMZk.:R<DRPmtL4*UPO`b]XF9,cl:0O1Z'L7V>jZ8$Z)$%Rm<rs:xs214zI?!yY/''<f%zn@yR9q7-fG|8~XFL.blP<%qqbojxP<e'o|L|]LB?JJ64Wr3opAJKR:s@S*]R17]q%+@r~v!u.Hl+B81>7%@h MeGf5.Sf qL_BjK>WgrM:%Ukr~%0l'6!pfZnw2&js,M(1>&Zvt00t;1Y>xu%0Zt&VcxPh;-]*#xRi|q<MrdSHk[$Q0L%5>e1$>MWbEkC;'GEKIN'A)$Eo7Ni7>&9FH9Z_~IkQ$EUSjA;WrW *.[4^E1uht:!ob7.j[Q&J-l|aQ_(XC/Ye&I<80l6P]Ha K_Vyd46vMfILMc5p8c5rws^",
    "]e8dqqg)(C3xaL^Mq*F&_OH,vHnnQ6Go=34.9^k^>3,<P>xdun6Tci<)I)1-9@AwJ,qGMS1#`f%W2s)TDEhQ5vl;Fzl#)*'0p|WL=L?*RvS~Q?:o#|]yeF22H*.j4[5?jer0f,jQ>!_pWuUDz.kU+0=O1-:&6=bb;YUfPBLQM^/:,x]~nb@u%[&+mi]:7=P:nR!Ixx*%^,gnl [L2/2d[r29)nQuc*7H>?C@Ug,7(&*#|!GL`+X?1Mz$SqBLJkQJ2n64m_FW6Hb#$W0hS:j9.!5,j0fb$2 x]/ iMBh?sBCgcQbZ]aQE[Ii:7[Q9olp?z8Grj`x_yMi>yvNJ`oB#?|VRHt)jqF>)NwdzGuxWqtJ?*L*o,hAZDuPeEUX^VFZR(3yZe.&+gV(dM$RO)/@`a)@Od0kh 6kGPH4N?@@8LuwgeQYtSAAQ^#H%'_oz_)uS:Dku?c&yT]djeGnLWCz0 p'lQu1_E#GV",
    "fj>&5Z>&2$tYXxNggR.eoM:w6sDZ*ogMN~URn!5Oz~`^|*|Zj`m=zbS[ce8%qM9h|M:~#=+DUT3b15rRpiC|fu'`!OjRP0i$FEGKuh9M]UJm'[WgbpqN*hMTH;hLld:Shshs!_mkS 0vkE<^>mP&v*P4.`! %vh,^6EaD*ClzN$mGkr>0't/N7B4K[3&K:^+SWTg:MdU*dd~m2e+JR^iun+AqsV+hzS3u,0hO!k^Ut&>vp72XG#keYsFsyP2y5V|1FGi,Dh&-u6/7^/vB.f=Zsn|wjz=XOL'/`DIdvYFD3AL*iVx&ko7S7G_pichN3dTc8>g)6!wOM6'QSH8NgZz.fO@2p#Vy:7@@!-NjBCth9GdT-P#|HzLyg_PZ=5*|VYq_RVRr3$Ms;(|Z0m|_E*5.(7~Fc:_VS<4t7MgRt^J`yG`H~Q^O`n&yQ#~ke%wNlzAD<)#93OV#;n`8g)(wW,Gh-QAGe9xQ1v6",
    "fS+P%B?~=6I@<yZwF4nXS1p`&T>'wi2*WvHWcw]TvSi+Sr/j>r5Y2GV~aF|wg+dbseGf45-Hbq5(Lfucu-z/I_Qe5bV6XsL~9?[$<jz.ofC;!i@vy7xuO$/!dOBPa/'<tUrInnQj?D`QR%F1Of_XLN7fJ],6>b9b(:bgPzb@t(|4ifz_0e,w_BH[[9.`PKjM[WC+AtZw9AI^Li'k2P>ct==|B-?n+AW'.aov)d]L4UFN)s-[YgP8 -.Vkl(QM7Y(7>+%B|1@ax;h-L>c*mq?!vWE-B(un= :e?NAuz0(^,J]zKdxes4;-2Co*R2XV4TqF`w~]CM7s<nDG37~[sH>V!KSLOv]4 )7^[Lq ?K25yMteMR<`cj)>nf'1;+Z1M;eLpeKz_UNCsMkRwPQZ=i?o^!?%rCZ|!_n>v&7SMYsZ.]iR0E;v#hdZ<WQ(GAym:#@/Fzp+sQIwyGg$vBP #iI<NN)n,^x@MI$",
    "/m]=MV=FO]#sLt*bJ69G;FvJ`U-Z[IJF=-[9=NaHxfN7P,<owX4Y/a673r,$kMa>ABUsI$=s8+`waj,vp$.a4wjo: #6byjTkluvVpyK*D$+X/^io&0[TRtF8]<'`=^COpX3&X?TUp^A0PxqX8it3&+YD>/8oTh@f|=A0zz*YdI2FTx9;/(1pg%|R-]XdA[FL)/4>@,9)Fgw91`FAsbCrE(`A#XjbjCLLTDJ6TcyG&Pp$H*-C-kN_#LQuM^*xVzzy[d3UcI@>|.N*F&(e-.N%RoXJ2_|Z7sm-*LNbijO2zG@K+W/<?*gvAq/s&@~IPk^6%0bo/v~&rI#w'J?An=o.-9JFX#tR&`%*%wOM7re)_pv:g]wuQQAUU+8|2UE ]C3bH!,on >hUVQz4>EKrj7uK,BZ/7,1$x;,Ae`6uKn 6qcK5290l(`P4dgFkn|!V <%%Rr4f2=[nR[T-<>w7Pvqo7*u$w'(>j5",
    "Qg7mf.gpN$dF-kGoOyK9$`QT-eU1m-R_-v:_O*ijHb&j(8X$^Ql`$SK;gF#j[*&7?y6v0bEW.*.Bfm!Bm6bcKx_&1@;K`GFuV4Ek>U+vXXin#ohwS`mP1JsFj_1V/@e<?C%lDFl.QGb6(!2ahh76c>*nHH:O=@-RJ2teo<(5W/G;$[aO(TnFQ:@=RqxJ[LR1(9biY<ZltBV,TR#.$m/fCwZ<#cJ1FY0l/#'VQ.g.)f&NKY!.RUC3<)$DAx.^9|fQ3:v#TTch5zF@W[)^F`'Ec)]iDk0xU(mV@+v62z?oTQ|l.eob|8xY8y$?''J`>]pNNe=*:jDJJU7_dNZvWs(C]q]+tF,UF2*KyDPD;~51@r-^etIb>Y>?+HG%NWE!GSOsQV+>oHgE4`3Ww*)n|(,X&m#7,YqK41 F8|8Dmj5IALEg4XQU/(D7,Sv9NdDwSTuJyg=@S |3;IurO^#DXA<hgE&'e/r1wi*.",
    "Y8Je:A<A[9M^uU_]?18Gv>jK9F2.M`|:?>M-^K(?-.W)0FkQmMl#r&2dazKnB4:>F$_'Va1q6Fft>R0mM Wh>Zt<edN7?U|a_'4+__:]we%M]U7iq0FL^Mv~SoY;K!>UnC^M3dR>Do+;m8@DCN^a'5?Q<Xx;NZyhqkPwE`(-+=e,'ur|i>Z4zhKO$=LhK Wnj?q<KL;ttey?rHAaS#]VM(+*),.>Yv$vpVmPDyj!:]0,vx1h<+1(J`pE&A.OK^f5:u|^U=)lS|VQU!%ek.M*;d^`Nk(MBgH;==S8T%-FGX3z|u5q&G`HQk$c`2@Z5B9Q*2-yE=c ]pa!T:dk&3NA=OwP>0)+'qk )U8ZDQo=eJ9OA%j`DrB8aPxMCqK;xA9=a)1#';I)Go:9D=^P32fq?;h|8+tj*rq-JuR='IN#D*u[g,^eNKU5=-N:L@|~Q34y`T!Q1>xaMFV#NFSKM)G:2rN:rw,&&R7&",
    "[ta4e6Cs%y8Kp!fZoiI=a,]ld1BIID]oK0z7M+kSH;E`lTeOi8g~7B-_nZVx450MTMCf%hL%NY0 pe)bnQBQ_8N4Cc07RSCE:FC2JI=9x+c5-RWg;0P(oP!6jssS#22THc>:j7O<ojP&npW7s.wg:bq2DJ)'HX@69zD|gfkz:C;>OQoJcap`_701I|kdav$_XyHH,q%d=Ti@HXH`n1&_|v#4v9POd,glDcv)l'TE)QIv:5(i5kDC).gzLvam#VSt4d+gx)!~.+[M]%S?q#-f[mH+tc%7c1W<5HduMJoVWV6kw?o[)Y /GQBbPU=~ELdqw,b2iyQP7D@B3a*wy&,yB8D#n5QL,k[gTt]xMMm21[E&g|z35NZEg%7@hq>f/:(vb(dYn2pZ= mLEs6CuRE y8tccp>36<G/i/<,tYk1PC!X.(gB3U&,sxfHnKJ6$i8bkrTd@|5k1To-#M2Fgdf6G:e*cv`l77tA",
    ";VT9p[-va+6a PROIz/06!671K%hfS@$!Q[`ZOn>.%DBapyRJbOO_mZZ2Nrw),J*1oG8Kb|[a?hPVGYG.'@5(_[S%S|8z&bAIV-2s1XT%hurNSS&%~nd:ixf:eI ?aD&l1w6d*$K-@=I_wC$V(=kS?LOG~9;<-k@f5=]`VPBg9A`-Xs%]*N@>'R-!A.E@(i&iqYH_g2d+t|g=xO<CMOAXjUX;F$F ?0B3%eRvpY~Tb+t_jB&|onY5A7Zd61/J5@^Gc3a.Au&3)6IkU%,vmW|Kz9:RhjH%Ahac%_;Q!FQK`!2qi3b^f<9/K(._M1-iv@D$BEHCVE<'TCK.hshL~7wOY.[J&?<>Md+xL%($pUSv2RCB]tj!|1!5@.%5B^#f21(S29#JcY'zn3tnNXfR<wGBr@jv4<$wUt(j=$P3v#cO?lYIO!j=MapUo[aWhn9J6(U#=:/q/RQ+]$)GGpE:Dg?Y$Ptgzs4Pa?l",
    "NYl|u31#<g!+O:H >^QH$''F;~wW>[$BAD6^lirV5rWgWC)07CNcXQ_8<q6%U3L0mHc%maoV>TQi7&[CQ]4fr7k7=m]s)|brn$jC@Mt`bP/0|G8i-p9w+u^yA`a`$@729PU+[hLVjuW0vGG8-9*fbs`RL^Zd``NyABk^^ daOha'EmN(S.Q*z*(Qozt[pp)g3a-*ud1)%'Mgi?eY4i(Rcp/RWg ~;0BMy_;O+q5>oyhKp/Uo<fHnT4nPs8jzKFn0+**rAqYs>+%@/f8m6'lTdpnK(kd;'.twJIo8cJ#h]I60fND)bi5K:DP<2|w-WDEjI+1&-P/,>(DF*@!/vlXGrYm7RSBB,Un*)iZ`[42h?S2ufU@0I:IYl*+:SX_#_fmc!;bcUq3WQVvpAT]gP`=['q'A-n7e&jhvzSew4#zB3j=rphsg/)U5V&F->aKAc7|8!R+@kBt.d'a,'s$ViZ53AWpgJ-[k2J8Z",
    "kuQ+@S1(0bm!7>R+1&@wXD?y|kX<AG_J>W]Rn#bY!LaZZz.nAVTYdJV#HpFi 60sK+!,.&lplhA+8#`S(,xWORvkvm#,;RZr@jPk?b,6]'/n7r<3iETOW?L)fG|LDxB,s.<8S+|(;?A8V/[m!.-R]O;p]s-1'|=(3U8aHR;oD1je`~@GE5*=kdQG$bqkM;45]OIE.kX1VeBgr#]T2J$o=l*AqWM704x T&UCi<z:i!m.2+tG'/`SrQ^7Na.L`%r-3S#1#b:P/S%fU/1SE(=0gCu./'7S<GrL&+y(bWs@=T]t$KE<C!ZF_t-#.&DV` L9Z7CA!M8QL>fO.9kTp2])-_XO(GHDM;?.f$lC+FpT1uPIz;*urR4o*BMZ`;LlWqxRTez2VCtkp-]j5Krp*YSEM?6bd5.T!=ofkF'zV|B)=] +EyvvX)T~!5*A^e!yEN//%1M7w!#u!ij[vK||eWgTx5VnpgVkw2=B",
    "/FwlmA3sL<73<:<eRQr-:+EzsRd!j@tS'=W=19Q2]?7z$sFN7.F$APZy*Pf!(#HK3 wl!hzRIkC $>(j^r;xkm1&+$K1 5qXV)8|FZX4VwW`^b3?)A1D8gUar~tYt_Oio8#u-'lVY8C^/]C]aPz+n1yjOW/j8'qV ]#@RfM~isS'T~thn<Gpzh#kVgYsx3evjdAHA.N5Buy8yqQ%PET(7iX)cROg:MO2fKMXDrg<C6#Q+UNxUolV]$d<SR;z3eS-U$7yWeqJKh-OI#>.BKw~mVJ_X'9[tp([,GwM<|'p97G(UU=eDSal5+AVjw48HeBw:ZFM8d5/bM( 7WX@MPvY&x9NY=aU_[-7|/'liF5j2~j `NdFfd*mL&Z72<k!H5^;cUIu^*jL-t;>yIXwaeZWwb:#F]BOby'xAILLMeB2b<@>DmMKkLhx9>k1*oyLUT!%'+9?k5XQ8K%vWi<7T#g~A=B1O3c &fU,",
    "sgDbK[`]3@$o(8kH:`xR9QTB#wg=<H-Ai=7#wyl]fLO=5k]aL~E]hDeoqTzC2bQ$l+4qm/2mv'xjr?c*`p41[y4FucAOZUYHzSsaf4YM#TY6>_S>Gd:ftuvF$H.ll-c)wB'[#w]S=[:hdunZNw_jiCj|^xwgN*hrTC;ucv[W%4VVmlAK*5BZevl7p -Yny<qfrG^izyM><HNv]|vNMMNHPBZFDgjX]U4>;)NsP.J@e#6%bGL98Vlf!+NaT(S_u/X;eb`'!wDH?r#xcpHc]+9ye;:cyv#-'Dn-(Mg!ey.XHRb+qUCkXpjbB^zUjK|C[:5^^%*0eoKqE_3WP[08kN>jmh[i[Ej!Fgq-=FLI<PNwwtqm9xf3+.o.txDP2]rX&$x|SExCA-;9#pn_y(YdbOKCz[GE2UvYx/]uJ#L=Nm4;$Xlw_2EEy&?>?1*XakQAN<,e~q6$6UZ0ZUP_ufm65aLBI+6#]L3gm.3",
    "MeROm?GT!0F/Lz!J]gc~*B?ZpGI,CLi(`@O-JjC5a<J.R4j&']8W9yzXZ<ZCgI;/*X[*5tj?ws Eq<M 5arOy,b,@AC<HL3WAmMU|dM.2;`8)|KvWE3ge8,2;C$6gPtBcU6R cVcKE/P7n37efq.I5L4X%D?R#Vwnb-.%hgBqcl6bOYtr[t6vf@4s#K8A[!/M$B2jyIgKn^5XrOUB`cN.]Y_>lk3Qb2QwbgH1dSTi7dZ=gAOo</@z,6Ixz>.sEUo-L*q,?T|UtpD,40A^'Jl%ijX(ID:1H]GV=^Tq$xc|GhI[@r9R:n^s6eZ4ec>5:Ij)nd;R-|lP5kT?xF[z&`;410!0N`&dWidl:3^7$cUQ*!&=4A'Km'<@X*OYiXB/9fPisfeciO.X!TF'2O8qWIO#XRF7cL/%`D~=u5@gDm0-9V$6jFWEz]?E8u1UqSYQNq^El[CZ$IZW)*__R.rnCvQa19qT7,2<'$X",
    "x,c2e94AIEaFy&Vh'J*^RSW76D$ v1jIa4emIzc%PQs*_bpo^~[8&Bk6vhS7u _r>'[+ad?E00k~m7`v9Xn3hzA IEfv-v-,8d1r,Z|UYT7b[|44AHp5GCkj@;5d&B5NEZk4wj$:eRrrjLWJjpjP9-S*28%y>6g0])hshfH4pt^a]WI?1FVa=ygYkF5gci>Zf+lg6r>FBpI-v<vOL_s7lAYa;mG@/n4yU;!;q4QR!jt=DTA.tq)Cr`I?<h>C$PjXv^2[F<uQQ[fL3vm2uUrhM|J._xqPOI_-dfLQzQ^ju@*^5e@g-2y:l]e!hhwmKr,j$*KwD%4t@UKEVYKq*<L;L+smH$Dhownv2*FhBlFjp8R~VVS99Ra6CU(?>6+f*V.u$7TEUgX^.Xb$e5k/blk@VKGfeysfz5M%z.g?3pcJSGq9>fx-e $g,;Hx>PF_d+XOUJ5`C:f@;FtST(SG0^cDri%ew6<5'e|M",
    "L(TcOZe7jX$%Wwqz,E1A4`E0IN|ZV(8FYk@sw0z%q<eIfmq,.cAVDk^c-PTs?K'F)p!mtvkQ$?|o$=f-x,.4F+0-sFU^d.V)axdiz_IBZ`Hdn1`(Ja/ VA`%N(kT7?N 4n5y9*%8Lb-ih M[a>Z10q;7o ogQa6;rCG^e#0`(M_4kj)pvqoKUzNZ12tVM 5K0L&`6([]?2`C2':qBl+En&/b[X:cL8=242MDYP =BHlDBWkl]w::_@GKF;1nHGNi`gs>B%:x)9ZN?o?L(=P=&gH#T+fu7YG.Sf_LKuVD2(bXs:Ke *:!(Uc1Yu0fmp+|nwh]xzY$_b:KfwWukIdF3XR&qu&mY/IIQ;`>q<>z];GaK;,,C(O8A7#KB@fp%3w<soW;Fb]0?@V_ow;S$4WWPxAQ7V^_n5Y0C7mwlZdrzv9,B;ecEP=nMP0nfqH%C37FZmZl?n]tC&Uak$f,Y=G9p.(#l2OlkH [",
    "X_M$^nAy#tRdJdW~B/_+>ud6^i.]DtdY4U*Bqa$k4(:[zM8Hf@B^B]XP2N<`^d;)!<JlGUs>|O+%zYDd_:$Lm>pO`'p]:DoR)&VV+YEDjXW5AL`/;GN~T|x_BK6R6Kl/Qn[t5Q`KFin#!gH/6ZgyStYvbr$'PqlAFI4iiZg 0:aZqPI6GvDGaL&#o#31fET@RZU8GZETQu$Nb%8-me52M&N>Z-?csE!]Ve;-!jTI5<X#u=LrpB&9d$v:cf-mIIkP:_c%>n- 1I%VCjo31r*[i7Z<<,7 +KW`j_tV&<Pq4^_HxRPm$Cc8:,$bE!uX90P+;8E;f[)uOHa_Yjven03#_WBwAS^6`_oRB;+=fmLtj>x!GU&2(khhQAr_>^DhpC-gd2%H*iq)T=QtWyL 4hc5ov/9jH-_x8jtP%^:.>/&axLV?>?5[7<jv)]UINyNK@Vj9Em|#GoOQ1m]VdqvR`0B-:mYs.4]W3&V",
    "`w1,n(`4`-AA^!i.5ThE8f6z)kx)qp|d,6z9jQJj/OF!rWE^T,C!xi9q2)qYl?cs2N'6YoUF9|=^TcM-pCjs1mj1G79J``0::$v?$]`&&JANsh#Ey;,E3|^glQMrpvL)Lfj,2+%z/UKcXxv;?zlxcw>V,$9eav.7Qi^w7#<>pOqzpIZY`whXN^ODf)):u<n`Tdf;O.y~%W$9j*36.,9,kHxul3wP[YVh_Qq,X~4L&pM'sh!]HNK;/W%oD^LmO;v?|+m^yZ$b_l>c|54!Q>S%IV#CZQl[=AcmWm;/aQ0&!zKMF9PTaiNofcD)B=uWt4ne4#`lHrn)z:-'(Wm2,&UG`VW9Di&guBR3qlx+w4*Li-r4QS$3b$3u,O?r@,Ru002qZC^s`~zXbwn0nk6NHmdXx2|r66VC^S;P|>vEwDBZvRIo_x|?huCI#7OVK.13,d5sjW]TKAWlJD!07r/WP-A|NZG>kA9nzT^E",
    "ksD[AU=|QEkWwDm(R/P-DKMSjk+YScH|p@u5i;!KLu#|k)Bs$:_$GL>w^R!($df>]@gIQym>7~;ec~lvkx0w3;#?6vAMdbij:L.</;ng,LW-(oQgS3q0F;0?!@Cr?B>H:QCHZ-70JJJV?-jyYa?Q5q,ijms:GHEY|nc$5C.$^H@(Y^^9W*'+.~KFn~8<y,GgPe4oc>nsp=[P=0'Ye0aS/4w*wOoMYS0nzvyJzUH sKgvD`0=ghlLf = aFq[n`223eJ'1SXY;Gzrsw,V<8?8QgHLjI+;j,.>!G8r)^2hz.%lL4mw(1lhg/Tj#h=VzbIZ)?2Woa?QP52!=$Y7|F%HM?!IAZ,R`!7-s!htg1>]55Ub(me,_x5XRH$ku<]MY-j[pQ2'dYRQ[DUb$)!ViNfx`3**19OY7x;2yIg4y8!Kgkj5I+X)hqmx/8Z)2ua=rtb-'w1fte|bCEVxwgS60@.h6H.DjvyCcXlu"]

end Sketchflow.Text.CharName
